import Mathlib.Data.List.Induction
import Mathlib.Data.List.InsertIdx
import Mathlib.Order.Nat
import SpanRules.Proofs.Automaton.Layout
import SpanRules.Proofs.Text.Lexicon
import SpanRules.RuleBook.Search

/-! # The ledger of a book of rules

A ledger lists keys with their patterns and handlers, and changes by list operations alone. A book
keeps its keys as identities. Where it makes the changes that a ledger of identities makes, it keeps
positions, an automaton and a lexicon that fit the ledger, whatever the hash of texts is.
-/

namespace SpanRules

/-- What is entered under a key. Keys are texts or the identities of texts. -/
structure Listing (κ σ : Type) where
  key : κ
  patterns : List Pattern
  handler : Option (Handler σ)

/-- The listings in order. -/
abbrev Ledger (κ σ : Type) :=
  List (Listing κ σ)

variable {κ σ : Type}

/-- The rule of a listing. -/
def Listing.toRule (e : Listing TextId σ) : Rule σ :=
  ⟨e.key, e.patterns, e.handler⟩

namespace Ledger

/-- The keys in order. -/
def keys (l : Ledger κ σ) : List κ :=
  l.map (·.key)

variable [DecidableEq κ]

/-- Enters patterns: behind those of the key, whose handler is replaced, or at the end. -/
def enter (l : Ledger κ σ) (key : κ) (handler : Option (Handler σ)) (patterns : List Pattern) :
    Ledger κ σ :=
  if key ∈ l.keys then
    l.map fun e => if e.key = key then ⟨key, e.patterns ++ patterns, handler⟩ else e
  else l ++ [⟨key, patterns, handler⟩]

/-- Enters patterns, of which there has to be one. A key is given by its text. -/
def addPatterns (l : Ledger κ σ) (keyOf : String → κ) (key : String)
    (handler : Option (Handler σ)) (patterns : List Pattern) : Except Fault (Ledger κ σ) :=
  if patterns = [] then .error (.invalidPattern (.noPatterns key))
  else .ok (l.enter (keyOf key) handler patterns)

variable [Hashing]

/-- Makes a change, or refuses it. -/
def change (keyOf : String → κ) (unknown : UnknownPolicy) (l : Ledger κ σ) :
    RuleChange σ → Except Fault (Ledger κ σ)
  | .add key handler patterns =>
    if patterns = [] then .error (.invalidPattern (.noPatterns key))
    else match collect (Pattern.ofJson unknown) patterns with
      | .ok patterns => l.addPatterns keyOf key handler patterns
      | .error fault => .error fault
  | .addPatterns key handler patterns => l.addPatterns keyOf key handler patterns
  | .remove key =>
    if keyOf key ∈ l.keys then .ok (l.filter (·.key ≠ keyOf key)) else .error (.notFound key)

/-- Makes a change, or leaves the ledger as it is when the change is refused. -/
def attempt (keyOf : String → κ) (unknown : UnknownPolicy) (l : Ledger κ σ) (c : RuleChange σ) :
    Ledger κ σ :=
  match l.change keyOf unknown c with
  | .ok l => l
  | .error _ => l

/-- The ledger after changes in order, refused ones included. -/
def history (keyOf : String → κ) (unknown : UnknownPolicy) (changes : List (RuleChange σ)) :
    Ledger κ σ :=
  changes.foldl (attempt keyOf unknown) []

end Ledger

/-! ## Entering and leaving out -/

namespace Ledger

section Keys

variable [DecidableEq κ] {l : Ledger κ σ} {key other : κ} {handler : Option (Handler σ)}
  {patterns : List Pattern} {i : Nat}

theorem keys_enter :
    (l.enter key handler patterns).keys = if key ∈ l.keys then l.keys else l.keys ++ [key] := by
  unfold enter
  split
  · unfold keys
    rw [List.map_map]
    apply List.map_congr_left
    intro e _
    by_cases hkey : e.key = key
    · simp [hkey]
    · simp [hkey]
  · simp [keys]

theorem nodup_keys_enter (h : l.keys.Nodup) : (l.enter key handler patterns).keys.Nodup := by
  rw [keys_enter]
  split
  · exact h
  · rename_i hkey
    exact (List.perm_append_singleton key l.keys).nodup_iff.mpr (List.nodup_cons.mpr ⟨hkey, h⟩)

theorem mem_keys_enter :
    other ∈ (l.enter key handler patterns).keys ↔ other ∈ l.keys ∨ other = key := by
  rw [keys_enter]
  split
  · rename_i hkey
    refine (or_iff_left_of_imp ?_).symm
    intro hother
    rwa [hother]
  · simp

theorem mem_enter {e : Listing κ σ} (he : e ∈ l.enter key handler patterns) :
    e ∈ l ∨ e.key = key ∧ ∃ earlier, e.patterns = earlier ++ patterns := by
  unfold enter at he
  split at he
  · obtain ⟨old, hold, rfl⟩ := List.mem_map.mp he
    by_cases hkey : old.key = key
    · rw [if_pos hkey]
      exact Or.inr ⟨rfl, old.patterns, rfl⟩
    · rw [if_neg hkey]
      exact Or.inl hold
  · rcases List.mem_append.mp he with hold | hnew
    · exact Or.inl hold
    · rw [List.mem_singleton.mp hnew]
      exact Or.inr ⟨rfl, [], rfl⟩

theorem filter_eq_eraseIdx (h : l.keys.Nodup) (hi : l.keys[i]? = some key) :
    l.filter (·.key ≠ key) = l.eraseIdx i := by
  induction l generalizing i with
  | nil => simp
  | cons e l ih =>
      obtain ⟨hfirst, hrest⟩ := List.nodup_cons.mp h
      cases i with
      | zero =>
          have hkey : e.key = key := Option.some.inj hi
          rw [List.filter_cons_of_neg (by simp [hkey]), List.eraseIdx_cons_zero]
          apply List.filter_eq_self.mpr
          intro other hother
          apply decide_eq_true
          intro hsame
          exact hfirst (List.mem_map.mpr ⟨other, hother, hsame.trans hkey.symm⟩)
      | succ i =>
          have hi : (Ledger.keys l)[i]? = some key := hi
          have hkey : e.key ≠ key := by
            intro hkey
            rw [← hkey] at hi
            exact hfirst (List.mem_of_getElem? hi)
          rw [List.filter_cons_of_pos (by simp [hkey]), List.eraseIdx_cons_succ, ih hrest hi]

end Keys

end Ledger

variable [Hashing]

/-- The book holds what a ledger of identities lists, and its positions, automaton and lexicon
fit. -/
structure RuleBook.Keeps (b : RuleBook σ) (options : Options) (l : Ledger TextId σ) : Prop where
  options : b.options = options
  rules : b.rules = l.map Listing.toRule
  positions {id : TextId} {i : Nat} : b.positions.find? id = some i ↔ l.keys[i]? = some id
  automaton : b.automaton = .ofRules (l.map fun e => (e.key, e.patterns))
  faithful : b.lexicon.Faithful
  named {id : TextId} : id ∈ l.keys → ∃ text, b.lexicon.get? id = some text
  nodup : l.keys.Nodup
  filled {e : Listing TextId σ} : e ∈ l → e.patterns ≠ []

namespace RuleBook

variable {b : RuleBook σ} {options : Options} {l : Ledger TextId σ} {key : String} {id : TextId}

omit [Hashing] in
theorem compile_map_toRule (l : Ledger TextId σ) :
    compile (l.map Listing.toRule) = .ofRules (l.map fun e => (e.key, e.patterns)) := by
  rw [compile, List.map_map]
  rfl

/-! ## Looking up a key -/

namespace Keeps

theorem find?_positions_eq_none (h : b.Keeps options l) :
    b.positions.find? id = none ↔ id ∉ l.keys := by
  rw [Option.eq_none_iff_forall_not_mem, List.mem_iff_getElem?]
  simp only [Option.mem_def, h.positions, not_exists]

theorem rule?_eq_some_iff (h : b.Keeps options l) {r : Rule σ} :
    b.rule? id = some r ↔ ∃ e ∈ l, id = e.key ∧ r = e.toRule := by
  simp only [rule?, Option.bind_eq_some_iff, h.positions, h.rules, Ledger.keys,
    List.getElem?_map, Option.map_eq_some_iff]
  constructor
  · intro hr
    obtain ⟨i, ⟨e, hi, rfl⟩, e', hi', rfl⟩ := hr
    rw [hi, Option.some.injEq] at hi'
    exact ⟨e, List.mem_of_getElem? hi, rfl, hi' ▸ rfl⟩
  · intro hr
    obtain ⟨e, he, rfl, rfl⟩ := hr
    obtain ⟨i, hi⟩ := List.mem_iff_getElem?.mp he
    exact ⟨i, ⟨e, hi, rfl⟩, e, hi, rfl⟩

theorem rule?_eq_none (h : b.Keeps options l) (hid : id ∉ l.keys) : b.rule? id = none := by
  rw [rule?, h.find?_positions_eq_none.mpr hid]
  rfl

theorem get_of_mem (h : b.Keeps options l) {e : Listing TextId σ} (he : e ∈ l)
    (hkey : .of key = e.key) : b.get key = .ok (e.handler, e.patterns) := by
  rw [get, h.rule?_eq_some_iff.mpr ⟨e, he, hkey, rfl⟩]
  rfl

theorem get_of_not_mem (h : b.Keeps options l) (hkey : .of key ∉ l.keys) :
    b.get key = .error (.notFound key) := by
  rw [get, h.rule?_eq_none hkey]

theorem contains_iff (h : b.Keeps options l) : b.contains key = true ↔ .of key ∈ l.keys := by
  rw [contains, Table.contains, Option.isSome_iff_ne_none, Ne, h.find?_positions_eq_none,
    not_not]

/-- The text told for a key is one of its identity. -/
theorem keyText?_eq_some_iff (h : b.Keeps options l) {text : String} :
    b.keyText? id = some text ↔ id ∈ l.keys ∧ b.lexicon.get? id = some text := by
  rw [keyText?, Option.bind_eq_some_iff, List.mem_iff_getElem?]
  simp only [h.positions, exists_and_right]

theorem compiled (h : b.Keeps options l) : b.automaton = compile b.rules := by
  rw [h.automaton, h.rules, compile_map_toRule]

theorem map_key_rules (h : b.Keeps options l) : b.rules.map (·.key) = l.keys := by
  rw [h.rules, Ledger.keys, List.map_map]
  rfl

theorem nodup_rule_keys (h : b.Keeps options l) : (b.rules.map (·.key)).Nodup :=
  h.map_key_rules ▸ h.nodup

end Keeps

/-! ## Entering patterns -/

section Entering

variable {handler : Option (Handler σ)} {patterns : List Pattern}

/-- The rule at the position of the key changes as the listing does. -/
theorem Keeps.modify_rules (h : b.Keeps options l) (handler : Option (Handler σ))
    (patterns : List Pattern) {i : Nat} (hi : l.keys[i]? = some id) :
    b.rules.modify i (fun r => { r with patterns := r.patterns ++ patterns, handler }) =
      (l.enter id handler patterns).map Listing.toRule := by
  rw [Ledger.enter, if_pos (List.mem_of_getElem? hi), h.rules]
  apply List.ext_getElem?
  intro j
  rw [List.getElem?_modify]
  simp only [List.getElem?_map, Option.map_map, Function.comp_def]
  cases he : l[j]? with
  | none => simp
  | some e =>
      have hj : l.keys[j]? = some e.key := by simp [Ledger.keys, he]
      by_cases hij : i = j
      · subst hij
        have hkey : e.key = id := Option.some.inj (hj.symm.trans hi)
        simp [Listing.toRule, hkey]
      · have hkey : e.key ≠ id := by
          intro hkey
          rw [← h.positions] at hi hj
          rw [hkey, hi] at hj
          exact hij (Option.some.inj hj)
        simp [hij, hkey]

theorem addPatterns_of_known (hne : patterns ≠ []) {i : Nat}
    (hi : b.positions.find? (.of key) = some i) :
    b.addPatterns key handler patterns = .ok ({ b with lexicon := b.lexicon.add key }.withRules
      (b.rules.modify i fun r => { r with patterns := r.patterns ++ patterns, handler })) := by
  rw [addPatterns, if_neg hne]
  simp only [hi]

theorem addPatterns_of_new (hne : patterns ≠ []) (hnew : b.positions.find? (.of key) = none) :
    b.addPatterns key handler patterns = .ok
      ({ b with
        lexicon := b.lexicon.add key
        positions := b.positions.insert (.of key) b.rules.length }.withRules
        (b.rules ++ [(⟨.of key, patterns, handler⟩ : Rule σ)])) := by
  rw [addPatterns, if_neg hne]
  simp only [hnew]

theorem Keeps.find?_insert_length (h : b.Keeps options l) (hnew : id ∉ l.keys) {other : TextId}
    {i : Nat} :
    (b.positions.insert id b.rules.length).find? other = some i ↔
      (l.keys ++ [id])[i]? = some other := by
  have hlength : b.rules.length = l.keys.length := by
    rw [h.rules, Ledger.keys, List.length_map, List.length_map]
  rw [Table.find?_insert, hlength, Automaton.getElem?_concat_eq_some_iff]
  by_cases hother : other = id
  · subst hother
    rw [if_pos rfl, Option.some.injEq]
    constructor
    · intro hi
      exact Or.inr ⟨hi.symm, rfl⟩
    · intro hi
      rcases hi with hold | ⟨hlast, -⟩
      · exact absurd (List.mem_of_getElem? hold) hnew
      · exact hlast.symm
  · rw [if_neg hother, h.positions]
    exact (or_iff_left fun hlast => hother hlast.2.symm).symm

theorem Keeps.addPatterns (h : b.Keeps options l) (hne : patterns ≠ []) :
    ∃ b', b.addPatterns key handler patterns = .ok b' ∧
      b'.Keeps options (l.enter (.of key) handler patterns) := by
  have hnamed {other : TextId} (hother : other ∈ (l.enter (.of key) handler patterns).keys) :
      ∃ text, (b.lexicon.add key).get? other = some text := by
    rcases Ledger.mem_keys_enter.mp hother with hold | hnew
    · obtain ⟨text, htext⟩ := h.named hold
      exact ⟨text, Lexicon.get?_add_of_get? htext⟩
    · rw [hnew]
      exact b.lexicon.exists_get?_add key
  have hfilled {e : Listing TextId σ} (he : e ∈ l.enter (.of key) handler patterns) :
      e.patterns ≠ [] := by
    rcases Ledger.mem_enter he with hold | ⟨-, earlier, hpatterns⟩
    · exact h.filled hold
    · rw [hpatterns]
      exact List.append_ne_nil_of_right_ne_nil earlier hne
  cases hfind : b.positions.find? (.of key) with
  | some i =>
      have hi := h.positions.mp hfind
      have hrules := h.modify_rules handler patterns hi
      refine ⟨_, addPatterns_of_known hne hfind, h.options, hrules, ?_, ?_, h.faithful.add,
        hnamed, Ledger.nodup_keys_enter h.nodup, hfilled⟩
      · rw [Ledger.keys_enter, if_pos (List.mem_of_getElem? hi)]
        exact h.positions
      · rw [← compile_map_toRule, ← hrules]
        rfl
  | none =>
      have hnew := h.find?_positions_eq_none.mp hfind
      have hrules : b.rules ++ [⟨.of key, patterns, handler⟩] =
          (l.enter (.of key) handler patterns).map Listing.toRule := by
        rw [Ledger.enter, if_neg hnew, List.map_append, h.rules]
        rfl
      refine ⟨_, addPatterns_of_new hne hfind, h.options, hrules, ?_, ?_, h.faithful.add,
        hnamed, Ledger.nodup_keys_enter h.nodup, hfilled⟩
      · rw [Ledger.keys_enter, if_neg hnew]
        exact h.find?_insert_length hnew
      · rw [← compile_map_toRule, ← hrules]
        rfl

end Entering

/-! ## Removing a key -/

section Removing

variable {i : Nat}

/-- Positions behind that of a key that is taken out are one less, as they are in the list of the
other keys. -/
theorem Keeps.find?_erase_shift (h : b.Keeps options l) (hi : l.keys[i]? = some id)
    {other : TextId} {j : Nat} :
    ((b.positions.erase id).map fun p => if i < p then p - 1 else p).find? other = some j ↔
      (l.keys.eraseIdx i)[j]? = some other := by
  have hplace {p : Nat} (hp : l.keys[p]? = some id) : p = i := by
    rw [← h.positions] at hi hp
    exact Option.some.inj (hp.symm.trans hi)
  rw [Table.find?_map, Table.find?_erase, Option.map_eq_some_iff, List.getElem?_eraseIdx]
  constructor
  · intro hj
    obtain ⟨p, hp, hshift⟩ := hj
    split at hp
    · cases hp
    · rename_i hother
      rw [h.positions] at hp
      have hne : p ≠ i := by
        rintro rfl
        rw [hi, Option.some.injEq] at hp
        exact hother hp.symm
      split at hshift
      · obtain rfl : p = j + 1 := by omega
        rwa [if_neg (by omega)]
      · subst hshift
        rwa [if_pos (by omega)]
  · intro hj
    have hne : other ≠ id := by
      rintro rfl
      split at hj
      · have := hplace hj
        omega
      · have := hplace hj
        omega
    rw [if_neg hne]
    simp only [h.positions]
    split at hj
    · exact ⟨j, hj, if_neg (by omega)⟩
    · exact ⟨j + 1, hj, by rw [if_pos (by omega), Nat.add_sub_cancel]⟩

theorem Keeps.remove (h : b.Keeps options l) (hkey : .of key ∈ l.keys) :
    ∃ b', b.remove key = .ok b' ∧ b'.Keeps options (l.filter (·.key ≠ .of key)) := by
  obtain ⟨i, hi⟩ := List.mem_iff_getElem?.mp hkey
  have hkeys : Ledger.keys (l.eraseIdx i) = l.keys.eraseIdx i := (List.eraseIdx_map _ _ _).symm
  have hrules : b.rules.eraseIdx i = (l.eraseIdx i).map Listing.toRule := by
    rw [h.rules, List.eraseIdx_map]
  rw [Ledger.filter_eq_eraseIdx h.nodup hi, RuleBook.remove, h.positions.mpr hi]
  refine ⟨_, rfl, ?_⟩
  refine ⟨h.options, hrules, ?_, ?_, h.faithful, ?_, ?_, ?_⟩
  · rw [hkeys]
    exact h.find?_erase_shift hi
  · rw [← compile_map_toRule, ← hrules]
    rfl
  · intro other hother
    rw [hkeys] at hother
    exact h.named (List.mem_of_mem_eraseIdx hother)
  · rw [hkeys]
    exact h.nodup.eraseIdx i
  · intro e he
    exact h.filled (List.mem_of_mem_eraseIdx he)

end Removing

/-! ## Histories -/

/-- A change does to the book what it does to the ledger, or both refuse it for one reason. -/
theorem Keeps.change (h : b.Keeps options l) (c : RuleChange σ) :
    (∃ b' l', b.change c = .ok b' ∧ l.change .of options.unknown c = .ok l' ∧
      b'.Keeps options l') ∨
    ∃ fault, b.change c = .error fault ∧ l.change .of options.unknown c = .error fault := by
  have hadd (key : String) (handler : Option (Handler σ)) (patterns : List Pattern) :
      (∃ b' l', b.addPatterns key handler patterns = .ok b' ∧
        l.addPatterns .of key handler patterns = .ok l' ∧ b'.Keeps options l') ∨
      ∃ fault, b.addPatterns key handler patterns = .error fault ∧
        l.addPatterns .of key handler patterns = .error fault := by
    by_cases hnil : patterns = []
    · exact Or.inr ⟨_, if_pos hnil, if_pos hnil⟩
    · obtain ⟨b', hb', hkeeps⟩ : ∃ b', b.addPatterns key handler patterns = .ok b' ∧
          b'.Keeps options (l.enter (.of key) handler patterns) := h.addPatterns hnil
      exact Or.inl ⟨b', _, hb', if_neg hnil, hkeeps⟩
  cases c with
  | add key handler patterns =>
      rw [RuleBook.change, RuleBook.add, Ledger.change, h.options]
      simp only [List.isEmpty_iff]
      split
      · exact Or.inr ⟨_, rfl, rfl⟩
      · cases collect (Pattern.ofJson options.unknown) patterns with
        | ok patterns => exact hadd key handler patterns
        | error fault => exact Or.inr ⟨fault, rfl, rfl⟩
  | addPatterns key handler patterns => exact hadd key handler patterns
  | remove key =>
      by_cases hkey : .of key ∈ l.keys
      · obtain ⟨b', hb', hkeeps⟩ := h.remove hkey
        exact Or.inl ⟨b', _, hb', if_pos hkey, hkeeps⟩
      · refine Or.inr ⟨.notFound key, ?_, if_neg hkey⟩
        rw [RuleBook.change, RuleBook.remove, h.find?_positions_eq_none.mpr hkey]

theorem Keeps.attempt (h : b.Keeps options l) (c : RuleChange σ) :
    (b.attempt c).Keeps options (l.attempt .of options.unknown c) := by
  rcases h.change c with ⟨b', l', hb, hl, hkeeps⟩ | ⟨fault, hb, hl⟩
  · rwa [RuleBook.attempt, Ledger.attempt, hb, hl]
  · rwa [RuleBook.attempt, Ledger.attempt, hb, hl]

theorem keeps_nil (options : Options) : Keeps (σ := σ) { options } options [] where
  options := rfl
  rules := rfl
  positions := by simp [Ledger.keys]
  automaton := rfl
  faithful := Lexicon.faithful_empty
  named := by simp [Ledger.keys]
  nodup := List.nodup_nil
  filled := by simp

/-- A book keeps the ledger of the changes it has been through. -/
theorem keeps_history (options : Options) (changes : List (RuleChange σ)) :
    (history options changes).Keeps options (Ledger.history .of options.unknown changes) := by
  induction changes using List.reverseRecOn with
  | nil => exact keeps_nil options
  | append_singleton changes c ih =>
      rw [history, Ledger.history, List.foldl_append, List.foldl_append]
      exact ih.attempt c

end RuleBook

end SpanRules
