import SpanRules.Proofs.Match.Calls
import SpanRules.Proofs.PhraseBook.Occurrences
import SpanRules.Proofs.RuleBook.Matches

/-! # Which handlers books call

A book calls, at each match, the handler that the latest successful addition has given to the key
of the match. This holds of books of rules and of books of phrases alike, and runs over several
documents consist of such runs.
-/

namespace SpanRules

variable {σ : Type}

/-- The key of an addition and the handler that it gives it. -/
def RuleChange.gives? : RuleChange σ → Option (String × Option (Handler σ))
  | .add key handler _ => some (key, handler)
  | .addPatterns key handler _ => some (key, handler)
  | .remove _ => none

/-- The key of an addition and the handler that it gives it. -/
def PhraseChange.gives? : PhraseChange σ → Option (String × Option (Handler σ))
  | .add key handler _ => some (key, handler)
  | .remove _ => none

/-! ## Books of rules -/

/-- Every listing has the handler that its key has been given. -/
def Ledger.HasHandlers (l : Ledger TextId σ) (given : TextId → Option (Handler σ)) : Prop :=
  ∀ e ∈ l, e.handler = given e.key

namespace Ledger

variable {l l' : Ledger TextId σ} {given : TextId → Option (Handler σ)} {key : TextId}

theorem HasHandlers.enter (h : l.HasHandlers given) (handler : Option (Handler σ))
    (patterns : List Pattern) :
    HasHandlers (l.enter key handler patterns) (Function.update given key handler) := by
  intro e he
  unfold Ledger.enter at he
  split at he
  · obtain ⟨old, hold, rfl⟩ := List.mem_map.mp he
    by_cases hkey : old.key = key
    · simp [hkey]
    · simp [hkey, h old hold]
  · rename_i hnew
    rcases List.mem_append.mp he with hold | hlast
    · have hkey : e.key ≠ key := by
        rintro rfl
        exact hnew (List.mem_map_of_mem hold)
      simp [hkey, h e hold]
    · simp [List.mem_singleton.mp hlast]

theorem HasHandlers.filter (h : l.HasHandlers given) (p : Listing TextId σ → Bool) :
    HasHandlers (l.filter p) given :=
  fun e he => h e (List.mem_filter.mp he).1

/-- A change that succeeds enters what it gives, or it gives nothing and leaves out a key. -/
theorem change_eq_ok [Hashing] {unknown : UnknownPolicy} {c : RuleChange σ}
    (h : l.change .of unknown c = .ok l') :
    (∃ key handler patterns, c.gives? = some (key, handler) ∧
      l' = l.enter (.of key) handler patterns) ∨
    ∃ key, c.gives? = none ∧ l' = l.filter (·.key ≠ key) := by
  have hadd {key : String} {handler : Option (Handler σ)} {patterns : List Pattern}
      (h : l.addPatterns .of key handler patterns = .ok l') :
      l' = l.enter (.of key) handler patterns := by
    unfold addPatterns at h
    split at h
    · cases h
    · exact (Except.ok.inj h).symm
  cases c with
  | add key handler patterns =>
      rw [change] at h
      split at h
      · cases h
      · split at h
        · exact Or.inl ⟨key, handler, _, rfl, hadd h⟩
        · cases h
  | addPatterns key handler patterns => exact Or.inl ⟨key, handler, patterns, rfl, hadd h⟩
  | remove key =>
      rw [change] at h
      split at h
      · exact Or.inr ⟨.of key, rfl, (Except.ok.inj h).symm⟩
      · cases h

end Ledger

variable [Hashing]

namespace RuleBook

variable {b : RuleBook σ} {options : Options} {l : Ledger TextId σ}
  {given : TextId → Option (Handler σ)}

/-- The handlers that changes of an empty book have given to keys. -/
def handlers (options : Options) (changes : List (RuleChange σ)) : TextId → Option (Handler σ) :=
  handlersAfter RuleBook.change RuleChange.gives? { options } (fun _ => none) changes

theorem Keeps.exists_hasHandlers (h : b.Keeps options l) (hgiven : l.HasHandlers given)
    (changes : List (RuleChange σ)) :
    ∃ l', (changes.foldl RuleBook.attempt b).Keeps options l' ∧
      l'.HasHandlers (handlersAfter RuleBook.change RuleChange.gives? b given changes) := by
  induction changes generalizing b l given with
  | nil => exact ⟨l, h, hgiven⟩
  | cons c rest ih =>
      rw [List.foldl_cons, handlersAfter, RuleBook.attempt]
      rcases h.change c with ⟨b', l', hb, hl, hkeeps⟩ | ⟨fault, hb, -⟩
      · rw [hb]
        rcases Ledger.change_eq_ok hl with
          ⟨key, handler, patterns, hgives, rfl⟩ | ⟨key, hgives, rfl⟩
        · rw [hgives]
          exact ih hkeeps (hgiven.enter handler patterns)
        · rw [hgives]
          exact ih hkeeps (hgiven.filter _)
      · rw [hb]
        exact ih h hgiven

theorem Keeps.serves (h : b.Keeps options l) (hgiven : l.HasHandlers given) (view : TokenView) :
    Serves b.handlerOf b.keyText? given (b.find view) := by
  intro m hm
  obtain ⟨-, -, r, hr, hkey, -⟩ := (mem_find h.compiled).mp hm
  rw [h.rules] at hr
  obtain ⟨e, he, rfl⟩ := List.mem_map.mp hr
  change e.key = m.key at hkey
  have hmem : e.key ∈ l.keys := List.mem_map_of_mem he
  obtain ⟨text, htext⟩ := h.named hmem
  rw [← hkey]
  refine ⟨text, (h.faithful.of_get? htext).symm, h.keyText?_eq_some_iff.mpr ⟨hmem, htext⟩, ?_⟩
  rw [handlerOf, h.rule?_eq_some_iff.mpr ⟨e, he, rfl, rfl⟩, htext, ← hgiven e he]
  rfl

theorem serves_history (options : Options) (changes : List (RuleChange σ)) (view : TokenView) :
    Serves (history options changes).handlerOf (history options changes).keyText?
      (handlers options changes) ((history options changes).find view) := by
  have hnone : Ledger.HasHandlers (σ := σ) [] fun _ => none := by simp [Ledger.HasHandlers]
  obtain ⟨l, hkeeps, hgiven⟩ := (keeps_nil options).exists_hasHandlers hnone changes
  exact hkeeps.serves hgiven view

end RuleBook

/-! ## Books of phrases -/

namespace PhraseBook

variable {b b' : PhraseBook σ} {key : String} {given : TextId → Option (Handler σ)}

/-- The handlers that changes of an empty book have given to keys. -/
def handlers (attr : TextAttribute) (changes : List (PhraseChange σ)) :
    TextId → Option (Handler σ) :=
  handlersAfter PhraseBook.change PhraseChange.gives? { attr } (fun _ => none) changes

/-- Every key of the book has its text and the handler that it has been given. -/
structure HasHandlers (b : PhraseBook σ) (given : TextId → Option (Handler σ)) : Prop where
  faithful : b.lexicon.Faithful
  named {id : TextId} {r : PhraseRule σ} : b.rules.find? id = some r →
    (∃ text, b.lexicon.get? id = some text) ∧ r.handler = given id

theorem change_add_eq_ok {handler : Option (Handler σ)} {phrases : List TokenView}
    (h : b.change (.add key handler phrases) = .ok b') :
    b'.lexicon = b.lexicon.add key ∧
      ∃ entered, b'.rules = b.rules.insert (.of key) ⟨entered, handler⟩ := by
  rw [change, PhraseBook.add] at h
  split at h
  · cases h
  · split at h
    · cases h
    · obtain rfl := Except.ok.inj h
      exact ⟨rfl, _, rfl⟩

theorem change_remove_eq_ok (h : b.change (.remove key) = .ok b') :
    b'.lexicon = b.lexicon ∧ b'.rules = b.rules.erase (.of key) := by
  rw [change, PhraseBook.remove] at h
  split at h
  · obtain rfl := Except.ok.inj h
    exact ⟨rfl, rfl⟩
  · cases h

theorem HasHandlers.add (h : b.HasHandlers given) {handler : Option (Handler σ)}
    {phrases : List TokenView} (hb : b.change (.add key handler phrases) = .ok b') :
    b'.HasHandlers (Function.update given (.of key) handler) := by
  obtain ⟨hlexicon, entered, hrules⟩ := change_add_eq_ok hb
  refine ⟨hlexicon ▸ h.faithful.add, ?_⟩
  intro id r hr
  rw [hrules, Table.find?_insert] at hr
  rw [hlexicon]
  split at hr
  · rename_i hid
    obtain rfl := Option.some.inj hr
    exact ⟨hid ▸ b.lexicon.exists_get?_add key, by simp [hid]⟩
  · rename_i hid
    obtain ⟨⟨text, htext⟩, hhandler⟩ := h.named hr
    exact ⟨⟨text, Lexicon.get?_add_of_get? htext⟩, by simp [hid, hhandler]⟩

theorem HasHandlers.remove (h : b.HasHandlers given) (hb : b.change (.remove key) = .ok b') :
    b'.HasHandlers given := by
  obtain ⟨hlexicon, hrules⟩ := change_remove_eq_ok hb
  refine ⟨hlexicon ▸ h.faithful, ?_⟩
  intro id r hr
  rw [hrules, Table.find?_erase] at hr
  rw [hlexicon]
  split at hr
  · cases hr
  · exact h.named hr

theorem HasHandlers.foldl (h : b.HasHandlers given) (changes : List (PhraseChange σ)) :
    (changes.foldl attempt b).HasHandlers
      (handlersAfter PhraseBook.change PhraseChange.gives? b given changes) := by
  induction changes generalizing b given with
  | nil => exact h
  | cons c rest ih =>
      rw [List.foldl_cons, handlersAfter, attempt]
      cases hb : b.change c with
      | error fault => exact ih h
      | ok b' =>
          cases c with
          | add key handler phrases => exact ih (h.add hb)
          | remove key => exact ih (h.remove hb)

theorem hasHandlers_history (attr : TextAttribute) (changes : List (PhraseChange σ)) :
    (history attr changes).HasHandlers (handlers attr changes) :=
  HasHandlers.foldl ⟨Lexicon.faithful_empty, by simp⟩ changes

theorem serves_history (attr : TextAttribute) (changes : List (PhraseChange σ))
    (view : TokenView) :
    Serves (history attr changes).handlerOf (history attr changes).keyText?
      (handlers attr changes) ((history attr changes).find view) := by
  have hlogs := logs_history attr changes
  have hhandlers := hasHandlers_history attr changes
  intro m hm
  obtain ⟨-, -, phrase, hlog, -⟩ := (mem_find hlogs).mp hm
  have hknown := (hlogs.known m.key).mpr ⟨phrase, hlog⟩
  obtain ⟨r, hr⟩ := Option.isSome_iff_exists.mp hknown
  obtain ⟨⟨text, htext⟩, hhandler⟩ := hhandlers.named hr
  refine ⟨text, (hhandlers.faithful.of_get? htext).symm, ?_, ?_⟩
  · rw [keyText?, hr]
    exact htext
  · rw [handlerOf, hr, htext, ← hhandler]
    rfl

end PhraseBook

/-! ## Runs -/

/-- A run of a book calls, in the order of the matches, the handlers that the latest additions
have given to their keys, and stops at the first failure; measuring the search changes nothing in
this. Several documents are run over in order, up to the first fault. -/
theorem run_calls_given_handlers (options : Options) (changes : List (RuleChange σ))
    (attr : TextAttribute) (entries : List (PhraseChange σ)) :
    let b := RuleBook.history options changes
    let p := PhraseBook.history attr entries
    (∀ document world, ∃ calls,
      Dispatched b.keyText? (RuleBook.handlers options changes) (b.find document.view) 0 document
        world (b.find document.view) calls (b.run document world) ∧
      Dispatched b.keyText? (RuleBook.handlers options changes) (b.find document.view) 0 document
        world (b.find document.view, (b.measure document.view).2) calls
        (b.runMeasured document world)) ∧
    (∀ documents world, ∃ runs, Piped b.run documents world runs (b.pipe documents world)) ∧
    (∀ document world, ∃ calls,
      Dispatched p.keyText? (PhraseBook.handlers attr entries) (p.find document.view) 0 document
        world (p.find document.view) calls (p.run document world)) ∧
    ∀ documents world, ∃ runs, Piped p.run documents world runs (p.pipe documents world) := by
  intro b p
  refine ⟨?_, exists_piped b.run, ?_, exists_piped p.run⟩
  · intro document world
    obtain ⟨calls, hcalls⟩ :=
      exists_dispatched (RuleBook.serves_history options changes document.view) document world
    exact ⟨calls, hcalls, hcalls.map fun found => (found, (b.measure document.view).2)⟩
  · intro document world
    exact exists_dispatched (PhraseBook.serves_history attr entries document.view) document world

end SpanRules
