import SpanRules.Proofs.RuleBook.Ledger

/-! # Books as ledgers of texts

Where identities tell all texts apart, a ledger of texts and the ledger of their identities make the
same changes. A book then tells what the ledger of texts lists, and nothing it tells depends on how
it came about.
-/

namespace SpanRules

variable {σ : Type} [Hashing]

/-- The listing under the identity of the key. -/
def Listing.identify (e : Listing String σ) : Listing TextId σ :=
  ⟨.of e.key, e.patterns, e.handler⟩

/-- The rule of a listing. -/
def Listing.rule (e : Listing String σ) : Rule σ :=
  e.identify.toRule

omit [Hashing] in
/-- The change that enters a listing anew. -/
def Listing.entering (e : Listing String σ) : RuleChange σ :=
  .addPatterns e.key e.handler e.patterns

namespace Ledger

/-- The ledger under the identities of the keys. -/
def identify (l : Ledger String σ) : Ledger TextId σ :=
  l.map Listing.identify

variable {l : Ledger String σ} {key : String}

theorem keys_identify (l : Ledger String σ) : l.identify.keys = l.keys.map TextId.of := by
  rw [identify, keys, keys, List.map_map, List.map_map]
  rfl

section Distinct

variable (hdistinct : TextId.Distinct)
include hdistinct

theorem mem_keys_identify : .of key ∈ l.identify.keys ↔ key ∈ l.keys := by
  rw [keys_identify, List.mem_map_of_injective hdistinct]

theorem identify_enter (handler : Option (Handler σ)) (patterns : List Pattern) :
    (l.enter key handler patterns).identify = l.identify.enter (.of key) handler patterns := by
  unfold enter
  simp only [mem_keys_identify hdistinct]
  split
  · unfold identify
    rw [List.map_map, List.map_map]
    apply List.map_congr_left
    intro e _
    by_cases hkey : e.key = key
    · simp [Listing.identify, hkey]
    · simp [Listing.identify, hkey, hdistinct.of_inj]
  · simp [identify, Listing.identify]

theorem identify_filter_ne :
    identify (l.filter (·.key ≠ key)) = l.identify.filter (·.key ≠ .of key) := by
  rw [identify, identify, List.filter_map]
  simp [Function.comp_def, Listing.identify, hdistinct.of_inj]

/-- A ledger of texts makes the changes that its identities make. -/
theorem change_identify (unknown : UnknownPolicy) (c : RuleChange σ) :
    l.identify.change .of unknown c = (l.change id unknown c).map identify := by
  have hadd (key : String) (handler : Option (Handler σ)) (patterns : List Pattern) :
      l.identify.addPatterns .of key handler patterns =
        (l.addPatterns id key handler patterns).map identify := by
    unfold addPatterns
    split
    · rfl
    · exact congrArg Except.ok (identify_enter hdistinct handler patterns).symm
  cases c with
  | add key handler patterns =>
      simp only [change]
      split
      · rfl
      · cases collect (Pattern.ofJson unknown) patterns with
        | ok patterns => exact hadd key handler patterns
        | error fault => rfl
  | addPatterns key handler patterns => exact hadd key handler patterns
  | remove key =>
      simp only [change, mem_keys_identify hdistinct, id]
      split
      · exact congrArg Except.ok (identify_filter_ne hdistinct).symm
      · rfl

theorem attempt_identify (unknown : UnknownPolicy) (c : RuleChange σ) :
    l.identify.attempt .of unknown c = (l.attempt id unknown c).identify := by
  unfold attempt
  rw [change_identify hdistinct]
  cases l.change id unknown c with
  | ok l => rfl
  | error fault => rfl

theorem history_identify (unknown : UnknownPolicy) (changes : List (RuleChange σ)) :
    history .of unknown changes = (history id unknown changes).identify := by
  induction changes using List.reverseRecOn with
  | nil => rfl
  | append_singleton changes c ih =>
      rw [history] at ih
      rw [history, history, List.foldl_append, List.foldl_append, ih]
      exact attempt_identify hdistinct unknown c

end Distinct

/-- Entering the listings of a ledger in order makes the ledger again, since each key is new to the
keys before it. -/
theorem history_entering (unknown : UnknownPolicy) (hnodup : l.keys.Nodup)
    (hfilled : ∀ e ∈ l, e.patterns ≠ []) :
    Ledger.history id unknown (l.map Listing.entering) = l := by
  induction l using List.reverseRecOn with
  | nil => rfl
  | append_singleton l e ih =>
      have hkeys : Ledger.keys (l ++ [e]) = Ledger.keys l ++ [e.key] := by simp [Ledger.keys]
      rw [hkeys, List.nodup_append] at hnodup
      have hnew : e.key ∉ Ledger.keys l := by
        intro hold
        exact hnodup.2.2 e.key hold e.key (List.mem_singleton_self _) rfl
      have hl := ih hnodup.1 fun e he => hfilled e (List.mem_append_left _ he)
      have hne : e.patterns ≠ [] := hfilled e (by simp)
      rw [Ledger.history] at hl ⊢
      rw [List.map_append, List.foldl_append, hl]
      simp [Ledger.attempt, Listing.entering, Ledger.change, Ledger.addPatterns, Ledger.enter,
        hne, hnew]

end Ledger

namespace RuleBook

variable {b c : RuleBook σ} {options : Options} {l : Ledger String σ} {key : String}

/-! ## What a book tells and does -/

/-- What the book tells about itself is what the ledger lists. -/
structure Tells (b : RuleBook σ) (l : Ledger String σ) : Prop where
  rules : b.rules = l.map Listing.rule
  positions (id : TextId) (i : Nat) :
    b.positions.find? id = some i ↔ ∃ key, l.keys[i]? = some key ∧ id = .of key
  automaton : b.automaton = .ofRules (l.map fun e => (.of e.key, e.patterns))
  size : b.size = l.length
  contains (key : String) : b.contains key = true ↔ key ∈ l.keys
  get (key : String) : (∃ found, b.get key = .ok found) ↔ key ∈ l.keys
  keyText (key : String) : b.keyText? (.of key) = some key ↔ key ∈ l.keys
  found (e : Listing String σ) : e ∈ l → b.get e.key = .ok (e.handler, e.patterns)

/-- The books find the same, run alike and have one summary. -/
structure Alike (b c : RuleBook σ) : Prop where
  find : b.find = c.find
  measure : b.measure = c.measure
  run : b.run = c.run
  runMeasured : b.runMeasured = c.runMeasured
  pipe : b.pipe = c.pipe
  summary : b.summary = c.summary

namespace Keeps

theorem rules_identify (h : b.Keeps options l.identify) : b.rules = l.map Listing.rule := by
  rw [h.rules, Ledger.identify, List.map_map]
  rfl

theorem automaton_identify (h : b.Keeps options l.identify) :
    b.automaton = .ofRules (l.map fun e => (.of e.key, e.patterns)) := by
  rw [h.automaton, Ledger.identify, List.map_map]
  rfl

theorem get_of_mem_identify (h : b.Keeps options l.identify) {e : Listing String σ} (he : e ∈ l) :
    b.get e.key = .ok (e.handler, e.patterns) :=
  h.get_of_mem (List.mem_map_of_mem he : e.identify ∈ l.identify) rfl

theorem measure_eq (hb : b.Keeps options l.identify) (hc : c.Keeps options l.identify) :
    b.measure = c.measure := by
  have hautomaton := hb.automaton.trans hc.automaton.symm
  have hmatch : b.matchOf = c.matchOf := by
    funext w
    rw [matchOf, matchOf, hautomaton]
  funext view
  rw [measure, measure, hautomaton, hb.options, hc.options, hmatch]

section Distinct

variable (hdistinct : TextId.Distinct)
include hdistinct

/-- The text of a key that is listed is the one that was entered. -/
theorem get?_of_mem (h : b.Keeps options l.identify) (hkey : key ∈ l.keys) :
    b.lexicon.get? (.of key) = some key := by
  obtain ⟨text, htext⟩ := h.named ((Ledger.mem_keys_identify hdistinct).mpr hkey)
  rw [htext, hdistinct text key (h.faithful.of_get? htext)]

theorem tells (h : b.Keeps options l.identify) : b.Tells l where
  rules := h.rules_identify
  positions id i := by
    rw [h.positions, Ledger.keys_identify, List.getElem?_map, Option.map_eq_some_iff]
    simp only [eq_comm]
  automaton := h.automaton_identify
  size := by rw [RuleBook.size, h.rules_identify, List.length_map]
  contains _ := by rw [h.contains_iff, Ledger.mem_keys_identify hdistinct]
  get key := by
    constructor
    · intro hget
      by_contra hkey
      obtain ⟨found, hfound⟩ := hget
      rw [h.get_of_not_mem (mt (Ledger.mem_keys_identify hdistinct).mp hkey)] at hfound
      cases hfound
    · intro hkey
      obtain ⟨e, he, rfl⟩ := List.mem_map.mp hkey
      exact ⟨_, h.get_of_mem_identify he⟩
  keyText key := by
    rw [h.keyText?_eq_some_iff, Ledger.mem_keys_identify hdistinct]
    exact and_iff_left_of_imp (h.get?_of_mem hdistinct)
  found _ he := h.get_of_mem_identify he

theorem handlerOf_eq (hb : b.Keeps options l.identify) (hc : c.Keeps options l.identify) :
    b.handlerOf = c.handlerOf := by
  funext id
  have hrule : b.rule? id = c.rule? id := by
    ext r
    rw [hb.rule?_eq_some_iff, hc.rule?_eq_some_iff]
  rw [handlerOf, handlerOf, hrule]
  cases hr : c.rule? id with
  | none => rfl
  | some r =>
      obtain ⟨_, hlisted, rfl, -⟩ := hc.rule?_eq_some_iff.mp hr
      obtain ⟨e, he, rfl⟩ := List.mem_map.mp hlisted
      have hkey : e.key ∈ l.keys := List.mem_map_of_mem he
      rw [Listing.identify, hb.get?_of_mem hdistinct hkey, hc.get?_of_mem hdistinct hkey]

theorem quoted_keys (h : b.Keeps options l.identify) :
    (b.rules.map fun r => quoted ((b.lexicon.get? r.key).getD "?")) = l.keys.map quoted := by
  rw [h.rules_identify, Ledger.keys, List.map_map, List.map_map]
  apply List.map_congr_left
  intro e he
  have htext := h.get?_of_mem hdistinct (List.mem_map_of_mem he : e.key ∈ l.keys)
  simp [Listing.rule, Listing.identify, Listing.toRule, htext]

theorem summary_eq (hb : b.Keeps options l.identify) (hc : c.Keeps options l.identify) :
    b.summary = c.summary := by
  unfold summary
  rw [hb.quoted_keys hdistinct, hc.quoted_keys hdistinct, hb.automaton, hc.automaton, hb.options,
    hc.options]

/-- Books that keep one ledger are alike. -/
theorem alike (hb : b.Keeps options l.identify) (hc : c.Keeps options l.identify) :
    b.Alike c := by
  have hmeasure := hb.measure_eq hc
  have hhandlers := hb.handlerOf_eq hdistinct hc
  have hfind : b.find = c.find := by
    funext view
    rw [find, find, hmeasure]
  have hrun : b.run = c.run := by
    funext document world
    rw [run, run, hhandlers, hfind]
  refine ⟨hfind, hmeasure, hrun, ?_, ?_, hb.summary_eq hdistinct hc⟩
  · funext document world
    rw [runMeasured, runMeasured, hhandlers, hmeasure]
  · rw [pipe, pipe, hrun]

end Distinct

end Keeps

/-- After any changes a book tells what its ledger lists, does with the next change what the
ledger does, and is like a new book in which each listing was entered once and in order. -/
theorem history_refines_ledger (hdistinct : TextId.Distinct) (options : Options)
    (changes : List (RuleChange σ)) :
    let b := history options changes
    let l := Ledger.history id options.unknown changes
    b.Tells l ∧
      (∀ c, (b.change c).map (fun _ => ()) = (l.change id options.unknown c).map fun _ => ()) ∧
      b.Alike (history options (l.map Listing.entering)) := by
  intro b l
  have hkeeps (changes : List (RuleChange σ)) :
      (history options changes).Keeps options
        (Ledger.history id options.unknown changes).identify :=
    Ledger.history_identify hdistinct options.unknown changes ▸ keeps_history options changes
  have h : b.Keeps options l.identify := hkeeps changes
  refine ⟨h.tells hdistinct, ?_, ?_⟩
  · intro c
    rcases h.change c with ⟨b', l', hb, hl, -⟩ | ⟨fault, hb, hl⟩
    · rw [Ledger.change_identify hdistinct] at hl
      rw [hb]
      cases hc : l.change id options.unknown c with
      | ok _ => rfl
      | error fault => rw [hc] at hl; cases hl
    · rw [Ledger.change_identify hdistinct] at hl
      rw [hb]
      cases hc : l.change id options.unknown c with
      | ok _ => rw [hc] at hl; cases hl
      | error found =>
          rw [hc] at hl
          obtain rfl : found = fault := Except.error.inj hl
          rfl
  · have hfresh := hkeeps (l.map Listing.entering)
    have hnodup : l.keys.Nodup := by
      have hids := h.nodup
      rw [Ledger.keys_identify] at hids
      exact hids.of_map
    have hfilled (e : Listing String σ) (he : e ∈ l) : e.patterns ≠ [] :=
      h.filled (List.mem_map_of_mem he : e.identify ∈ l.identify)
    rw [Ledger.history_entering options.unknown hnodup hfilled] at hfresh
    exact h.alike hdistinct hfresh

omit [Hashing] in
/-- The first of two keys is removed, and the other one is entered again. -/
theorem history_refines_ledger_two_keys :
    letI := Hashing.numbered
    let p : Pattern := ⟨[⟨⟨[], false⟩, .one⟩], List.cons_ne_nil _ _⟩
    let changes : List (RuleChange Unit) := [.addPatterns "A" none [p],
      .addPatterns "B" none [p], .remove "A", .addPatterns "B" none [p], .remove "A"]
    TextId.Distinct ∧ (history {} changes).Tells [⟨"B", [p, p], none⟩] ∧
      (history {} changes).Alike (history {} [.addPatterns "B" none [p, p]]) := by
  let _ := Hashing.numbered
  intro p changes
  obtain ⟨htells, -, halike⟩ := history_refines_ledger Hashing.distinct_numbered {} changes
  exact ⟨Hashing.distinct_numbered, htells, halike⟩

end RuleBook

end SpanRules
