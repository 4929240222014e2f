import SpanRules.Proofs.Pattern.Collect
import SpanRules.Proofs.RuleBook.Ledger

/-! # What a book of rules refuses

A change is refused for what it brings along or for the keys that the book has, and for nothing
else. Made in place, one step after the other, a refused change still leaves the whole book as it
was, because nothing is changed before the last reason to refuse has been looked for.
-/

namespace SpanRules

/-! ## Procedures -/

/-- A way to change a state step by step. A fault ends it, and the steps made so far stay. -/
abbrev Procedure (α : Type) :=
  ExceptT Fault (StateM α)

namespace Procedure

variable {α β : Type} {f : α → α} {s : α} {fault : Fault}

/-- The result of a procedure, and the state that it leaves behind whether it succeeds or not. -/
def perform (p : Procedure α β) (s : α) : Except Fault β × α :=
  (ExceptT.run p).run s

@[simp] theorem perform_throw : perform (throw fault : Procedure α β) s = (.error fault, s) := rfl

@[simp] theorem perform_modify : perform (modify f : Procedure α Unit) s = (.ok (), f s) := rfl

@[simp] theorem perform_throw_bind {γ : Type} {k : γ → Procedure α β} :
    perform (throw fault >>= k) s = (.error fault, s) := rfl

@[simp] theorem perform_get_bind {k : α → Procedure α β} :
    perform (get >>= k) s = perform (k s) s := rfl

@[simp] theorem perform_modify_bind {k : Unit → Procedure α β} :
    perform (modify f >>= k) s = perform (k ()) (f s) := rfl

end Procedure

variable {σ : Type} [Hashing]

namespace RuleBook

/-- Enters patterns under a key, step by step. -/
def enterInSteps (key : String) (handler : Option (Handler σ)) (patterns : List Pattern) :
    Procedure (RuleBook σ) Unit := do
  if patterns = [] then throw (.invalidPattern (.noPatterns key))
  modify fun b => { b with lexicon := b.lexicon.add key }
  let b ← getThe (RuleBook σ)
  match b.positions.find? (.of key) with
  | some position =>
    modify fun b => { b with
      rules := b.rules.modify position fun r => { r with patterns := r.patterns ++ patterns } }
    modify fun b => { b with rules := b.rules.modify position fun r => { r with handler } }
  | none =>
    modify fun b => { b with positions := b.positions.insert (.of key) b.rules.length }
    modify fun b => { b with rules := b.rules ++ [⟨.of key, patterns, handler⟩] }
  modify fun b => { b with automaton := compile b.rules }

/-- Makes a change of the book in place, step by step. The position of a key is taken out before
it is known whether there was one. -/
def changeInSteps : RuleChange σ → Procedure (RuleBook σ) Unit
  | .add key handler patterns => do
    if patterns = [] then throw (.invalidPattern (.noPatterns key))
    let b ← getThe (RuleBook σ)
    match collect (Pattern.ofJson b.options.unknown) patterns with
    | .error fault => throw fault
    | .ok patterns => enterInSteps key handler patterns
  | .addPatterns key handler patterns => enterInSteps key handler patterns
  | .remove key => do
    let b ← getThe (RuleBook σ)
    modify fun b => { b with positions := b.positions.erase (.of key) }
    match b.positions.find? (.of key) with
    | none => throw (.notFound key)
    | some position =>
      modify fun b => { b with rules := b.rules.eraseIdx position }
      modify fun b => { b with
        positions := b.positions.map fun p => if position < p then p - 1 else p }
      modify fun b => { b with automaton := compile b.rules }

variable {b : RuleBook σ} {options : Options} {l : Ledger TextId σ} {key : String}
  {handler : Option (Handler σ)} {fault : Fault}

/-! ## Steps and changes -/

omit [Hashing] in
theorem modify_patterns_modify_handler (rules : List (Rule σ)) (position : Nat)
    (patterns : List Pattern) (handler : Option (Handler σ)) :
    (rules.modify position fun r => { r with patterns := r.patterns ++ patterns }).modify position
      (fun r => { r with handler }) =
    rules.modify position fun r => { r with patterns := r.patterns ++ patterns, handler } := by
  rw [List.modify_modify_eq]
  rfl

theorem perform_enterInSteps (b : RuleBook σ) (key : String) (handler : Option (Handler σ))
    (patterns : List Pattern) :
    (enterInSteps key handler patterns).perform b =
      ((b.addPatterns key handler patterns).map fun _ => (),
        b.attempt (.addPatterns key handler patterns)) := by
  rw [attempt, change]
  by_cases hnil : patterns = []
  · simp [enterInSteps, addPatterns, hnil, Except.map]
  · cases hfind : b.positions.find? (.of key) with
    | none =>
        rw [addPatterns_of_new hnil hfind]
        simp [enterInSteps, hnil, hfind, withRules, Except.map]
    | some position =>
        rw [addPatterns_of_known hnil hfind]
        simp [enterInSteps, hnil, hfind, withRules, Except.map, modify_patterns_modify_handler]

theorem perform_remove (b : RuleBook σ) (key : String) :
    (changeInSteps (.remove key)).perform b =
      ((b.change (.remove key)).map fun _ => (), b.attempt (.remove key)) := by
  cases hfind : b.positions.find? (.of key) with
  | none =>
      have herase := Table.erase_of_find?_eq_none hfind
      simp [changeInSteps, attempt, change, RuleBook.remove, hfind, herase, Except.map]
  | some position =>
      simp [changeInSteps, attempt, change, RuleBook.remove, hfind, withRules, Except.map]

/-- Made in steps, a change has the result that it has at once, and leaves the book that an attempt
leaves. -/
theorem perform_changeInSteps (b : RuleBook σ) (c : RuleChange σ) :
    (changeInSteps c).perform b = ((b.change c).map fun _ => (), b.attempt c) := by
  cases c with
  | add key handler patterns =>
      by_cases hnil : patterns = []
      · simp [changeInSteps, attempt, change, RuleBook.add, hnil, Except.map]
      · cases hcollect : collect (Pattern.ofJson b.options.unknown) patterns with
        | error fault =>
            simp [changeInSteps, attempt, change, RuleBook.add, hnil, hcollect, Except.map]
        | ok read =>
            have henter := perform_enterInSteps b key handler read
            simpa [changeInSteps, attempt, change, RuleBook.add, hnil, hcollect] using henter
  | addPatterns key handler patterns => exact perform_enterInSteps b key handler patterns
  | remove key => exact perform_remove b key

theorem attempt_of_error {c : RuleChange σ} (h : b.change c = .error fault) : b.attempt c = b := by
  rw [attempt, h]

/-- A change that is refused on its way leaves the book as it was. -/
theorem perform_of_error {c : RuleChange σ} (h : ((changeInSteps c).perform b).1 = .error fault) :
    ((changeInSteps c).perform b).2 = b := by
  rw [perform_changeInSteps] at h ⊢
  cases hchange : b.change c with
  | ok b' =>
      rw [hchange] at h
      cases h
  | error found => exact attempt_of_error hchange

/-! ## Reasons to refuse -/

theorem addPatterns_eq_error_iff {patterns : List Pattern} :
    b.addPatterns key handler patterns = .error fault ↔
      patterns = [] ∧ fault = .invalidPattern (.noPatterns key) := by
  by_cases hnil : patterns = []
  · simp [addPatterns, hnil, eq_comm]
  · cases hfind : b.positions.find? (.of key) with
    | none => simp [addPatterns_of_new hnil hfind, hnil]
    | some position => simp [addPatterns_of_known hnil hfind, hnil]

/-- Patterns are refused when there are none, or for the first that cannot be read. -/
theorem add_eq_error_iff {patterns : List Json} :
    b.add key handler patterns = .error fault ↔
      patterns = [] ∧ fault = .invalidPattern (.noPatterns key) ∨
      ∃ before p after, patterns = before ++ p :: after ∧
        (∀ q ∈ before, ∃ read, Pattern.ofJson b.options.unknown q = .ok read) ∧
        Pattern.ofJson b.options.unknown p = .error fault := by
  rw [← collect_eq_error_iff, RuleBook.add]
  by_cases hnil : patterns = []
  · simp [hnil, collect, eq_comm]
  · cases hcollect : collect (Pattern.ofJson b.options.unknown) patterns with
    | error found => simp [hnil]
    | ok read =>
        have hread : read ≠ [] := by
          rintro rfl
          cases collect_eq_ok_iff.mp hcollect
          exact hnil rfl
        simp [hnil, addPatterns_eq_error_iff, hread]

theorem Keeps.remove_eq_error_iff (h : b.Keeps options l) :
    b.remove key = .error fault ↔ .of key ∉ l.keys ∧ fault = .notFound key := by
  rw [← h.find?_positions_eq_none, RuleBook.remove]
  cases b.positions.find? (.of key) with
  | none => simp [eq_comm]
  | some position => simp

theorem Keeps.get_eq_error_iff (h : b.Keeps options l) :
    b.get key = .error fault ↔ .of key ∉ l.keys ∧ fault = .notFound key := by
  by_cases hkey : .of key ∈ l.keys
  · obtain ⟨e, he, hid⟩ := List.mem_map.mp hkey
    simp [h.get_of_mem he hid.symm, hkey]
  · simp [h.get_of_not_mem hkey, hkey, eq_comm]

/-- What a book that has keys of the given identities refuses and why, and that refused changes
leave it as it was, also when they are made in steps. -/
structure Refuses (b : RuleBook σ) (unknown : UnknownPolicy) (keys : List TextId) : Prop where
  add (key : String) (handler : Option (Handler σ)) (patterns : List Json) (fault : Fault) :
    b.change (.add key handler patterns) = .error fault ↔
      patterns = [] ∧ fault = .invalidPattern (.noPatterns key) ∨
      ∃ before p after, patterns = before ++ p :: after ∧
        (∀ q ∈ before, ∃ read, Pattern.ofJson unknown q = .ok read) ∧
        Pattern.ofJson unknown p = .error fault
  addPatterns (key : String) (handler : Option (Handler σ)) (patterns : List Pattern)
    (fault : Fault) :
    b.change (.addPatterns key handler patterns) = .error fault ↔
      patterns = [] ∧ fault = .invalidPattern (.noPatterns key)
  remove (key : String) (fault : Fault) :
    b.change (.remove key) = .error fault ↔ .of key ∉ keys ∧ fault = .notFound key
  get (key : String) (fault : Fault) :
    b.get key = .error fault ↔ .of key ∉ keys ∧ fault = .notFound key
  perform (c : RuleChange σ) :
    (changeInSteps c).perform b = ((b.change c).map fun _ => (), b.attempt c)
  unchanged (c : RuleChange σ) (fault : Fault) :
    ((changeInSteps c).perform b).1 = .error fault → ((changeInSteps c).perform b).2 = b

theorem Keeps.refuses (h : b.Keeps options l) : b.Refuses options.unknown l.keys where
  add _ _ _ _ := h.options ▸ add_eq_error_iff
  addPatterns _ _ _ _ := addPatterns_eq_error_iff
  remove _ _ := h.remove_eq_error_iff
  get _ _ := h.get_eq_error_iff
  perform := perform_changeInSteps b
  unchanged _ _ := perform_of_error

end RuleBook

end SpanRules
