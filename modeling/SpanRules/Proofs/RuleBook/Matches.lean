import SpanRules.Proofs.Automaton.Prescan
import SpanRules.Proofs.RuleBook.Ledger

/-! # What a book finds

A book finds the spans that match a pattern of a rule, by the meaning of patterns alone, under
the key of the rule.
-/

namespace SpanRules.RuleBook

variable {σ : Type} {b : RuleBook σ} {view : TokenView}

/-- The place of a key among those of the rules. -/
def place (b : RuleBook σ) (key : TextId) : Nat :=
  (b.rules.map (·.key)).idxOf key

/-- Matches by start, then by stop, then by the place of the key. -/
def Precedes (b : RuleBook σ) (m n : Match) : Prop :=
  m.start < n.start ∨ m.start = n.start ∧
    (m.stop < n.stop ∨ m.stop = n.stop ∧ b.place m.key < b.place n.key)

theorem matchOf_eq_some_iff (h : b.automaton = compile b.rules) {w : Window} {m : Match} :
    b.matchOf w = some m ↔
      ∃ r, b.rules[w.rule]? = some r ∧ m = ⟨r.key, w.start, w.stop⟩ := by
  rw [matchOf, h, compile, Automaton.keys_ofRules, List.map_map]
  simp only [List.getElem?_map, Function.comp_apply, Option.map_map, Option.map_eq_some_iff,
    eq_comm (a := m)]

theorem mem_search_compile (h : b.automaton = compile b.rules) {prescan : Bool} {w : Window} :
    w ∈ (b.automaton.search view prescan).1 ↔ w.start < w.stop ∧ w.stop ≤ view.size ∧
      ∃ r, b.rules[w.rule]? = some r ∧ ∃ p ∈ r.patterns, p.Matches view w.start w.stop := by
  rw [h, compile, Automaton.mem_search]
  simp only [Automaton.mem_placed, List.getElem?_map, Option.map_eq_some_iff]
  refine and_congr_right fun _ => and_congr_right fun _ => ?_
  constructor
  · intro hw
    obtain ⟨p, ⟨-, ⟨r, hr, rfl⟩, hp⟩, hrule, hmatches⟩ := hw
    exact ⟨r, hrule ▸ hr, p.pattern, List.mem_of_getElem? hp, hmatches⟩
  · intro hw
    obtain ⟨r, hr, p, hp, hmatches⟩ := hw
    obtain ⟨i, hi⟩ := List.mem_iff_getElem?.mp hp
    exact ⟨⟨w.rule, i, p⟩, ⟨_, ⟨r, hr, rfl⟩, hi⟩, rfl, hmatches⟩

theorem mem_find (h : b.automaton = compile b.rules) {m : Match} :
    m ∈ b.find view ↔ m.start < m.stop ∧ m.stop ≤ view.size ∧
      ∃ r ∈ b.rules, r.key = m.key ∧ ∃ p ∈ r.patterns, p.Matches view m.start m.stop := by
  simp only [find, measure, List.mem_filterMap, matchOf_eq_some_iff h, mem_search_compile h]
  constructor
  · intro hm
    obtain ⟨w, ⟨hlt, hstop, r, hr, hpattern⟩, r', hr', rfl⟩ := hm
    rw [hr, Option.some.injEq] at hr'
    exact ⟨hlt, hstop, r, List.mem_of_getElem? hr, hr' ▸ rfl, hpattern⟩
  · intro hm
    obtain ⟨hlt, hstop, r, hr, hkey, hpattern⟩ := hm
    obtain ⟨i, hi⟩ := List.mem_iff_getElem?.mp hr
    exact ⟨⟨m.start, m.stop, i⟩, ⟨hlt, hstop, r, hi, hpattern⟩, r, hi, by rw [hkey]⟩

/-- The windows found increase, and the rule of a window stands where its key does. -/
theorem pairwise_find (h : b.automaton = compile b.rules)
    (hnodup : (b.rules.map (·.key)).Nodup) : (b.find view).Pairwise b.Precedes := by
  have hplace {i : Nat} {r : Rule σ} (hr : b.rules[i]? = some r) : b.place r.key = i := by
    obtain ⟨hi, rfl⟩ := List.getElem?_eq_some_iff.mp hr
    have hkey := hnodup.idxOf_getElem i (by rwa [List.length_map])
    rwa [List.getElem_map] at hkey
  have hsearched := Automaton.searched_search b.automaton view b.options.prescan
  rw [find, measure]
  apply List.pairwise_filterMap.mpr
  refine hsearched.increasing.imp ?_
  intro v w hlt m hm n hn
  obtain ⟨r, hr, rfl⟩ := (matchOf_eq_some_iff h).mp hm
  obtain ⟨q, hq, rfl⟩ := (matchOf_eq_some_iff h).mp hn
  rw [Window.lt_iff, ← hplace hr, ← hplace hq] at hlt
  exact hlt

/-- Books with the same rules find the same, also when only one of them scans the tokens first. -/
theorem find_eq_of_rules {c : RuleBook σ} (hb : b.automaton = compile b.rules)
    (hc : c.automaton = compile c.rules) (hrules : b.rules = c.rules) (view : TokenView) :
    b.find view = c.find view := by
  have hsame : b.automaton = c.automaton := by rw [hb, hc, hrules]
  have hmatch : b.matchOf = c.matchOf := by
    funext w
    rw [matchOf, matchOf, hsame]
  have hplain (prescan : Bool) :
      (c.automaton.search view prescan).1 = (c.automaton.search view false).1 := by
    cases prescan with
    | false => rfl
    | true => rw [hc, compile, (Automaton.search_prescan _ view).1]
  simp only [find, measure, hsame, hmatch, hplain]

/-- After any changes, and whether the tokens are scanned first or not, a book finds exactly the
spans of tokens that match a pattern of a rule, under the key of the rule, each once and in
order. -/
theorem find_history [Hashing] (options : Options) (changes : List (RuleChange σ))
    (view : TokenView) :
    let b := history options changes
    (∀ m, m ∈ b.find view ↔ m.start < m.stop ∧ m.stop ≤ view.size ∧
      ∃ r ∈ b.rules, r.key = m.key ∧ ∃ p ∈ r.patterns, p.Matches view m.start m.stop) ∧
    (b.find view).Pairwise b.Precedes := by
  intro b
  have h := keeps_history options changes
  constructor
  · intro m
    exact mem_find h.compiled
  · exact pairwise_find h.compiled h.nodup_rule_keys

end SpanRules.RuleBook
