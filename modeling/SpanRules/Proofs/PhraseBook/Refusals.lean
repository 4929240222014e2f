import SpanRules.Proofs.Pattern.Literals
import SpanRules.Proofs.PhraseBook.Registrations
import SpanRules.Proofs.RuleBook.Refusals
import SpanRules.Text.Hash

/-! # What a book of phrases refuses

A phrase has to have tokens, each with a text. The first phrase that falls short, and in it the
first token, is the reason to refuse an addition. As in a book of rules, a refused change leaves
nothing behind, neither a key nor a node.
-/

namespace SpanRules

variable {σ : Type}

/-! ## Phrases -/

/-- There are tokens, and each has a text. -/
def TokenView.IsPhrase (view : TokenView) (attr : TextAttribute) : Prop :=
  view.size ≠ 0 ∧ ∀ i < view.size, ∃ id, view.attr i (.text attr) = .text id

/-- What is wrong with a phrase: it has no tokens, or the first token that has no text. -/
inductive TokenView.FaultyPhrase (view : TokenView) (attr : TextAttribute) : Fault → Prop
  | empty (hsize : view.size = 0) : FaultyPhrase view attr (.invalidPattern .emptyPhrase)
  | token {i : Nat} (hi : i < view.size)
      (hbefore : ∀ j < i, ∃ id, view.attr j (.text attr) = .text id)
      (htoken : ∀ id, view.attr i (.text attr) ≠ .text id) :
      FaultyPhrase view attr (.invalidPattern (.notAText i attr))

/-- The text of a token, which it has to have. -/
def textOrFault (attr : TextAttribute) (view : TokenView) (index : Nat) : Except Fault TextId :=
  match (view.attr index (.text attr)).textId? with
  | some id => .ok id
  | none => .error (.invalidPattern (.notAText index attr))

section Phrases

variable {attr : TextAttribute} {view : TokenView} {index : Nat} {id : TextId} {fault : Fault}

theorem textOrFault_eq_ok_iff :
    textOrFault attr view index = .ok id ↔ view.attr index (.text attr) = .text id := by
  rw [← AttributeValue.textId?_eq_some_iff, textOrFault]
  cases (view.attr index (.text attr)).textId? <;> simp

theorem textOrFault_eq_error_iff : textOrFault attr view index = .error fault ↔
    (∀ id, view.attr index (.text attr) ≠ .text id) ∧
      fault = .invalidPattern (.notAText index attr) := by
  simp only [Ne, ← AttributeValue.textId?_eq_some_iff, textOrFault]
  cases (view.attr index (.text attr)).textId? <;> simp [eq_comm]

theorem phraseOf_of_size_ne_zero (hsize : view.size ≠ 0) :
    phraseOf attr view = collect (textOrFault attr view) (List.range view.size) :=
  if_neg hsize

theorem exists_phraseOf_eq_ok_iff :
    (∃ phrase, phraseOf attr view = .ok phrase) ↔ view.IsPhrase attr := by
  by_cases hsize : view.size = 0
  · simp [phraseOf, TokenView.IsPhrase, hsize]
  · rw [phraseOf_of_size_ne_zero hsize, exists_collect_eq_ok_iff]
    simp [textOrFault_eq_ok_iff, TokenView.IsPhrase, hsize]

/-- In front of a number in a range stand all smaller ones. -/
theorem exists_range_eq_append_cons_iff {n i : Nat} {before : List Nat} :
    (∃ after, List.range n = before ++ i :: after) ↔ i < n ∧ before = List.range i := by
  constructor
  · intro h
    obtain ⟨after, hrange⟩ := h
    have hi : (List.range n)[before.length]? = some i := by simp [hrange]
    obtain ⟨hlt, rfl⟩ : before.length < n ∧ before.length = i := by
      simpa [List.getElem?_eq_some_iff] using hi
    have htake : (List.range n).take before.length = before := by simp [hrange]
    refine ⟨hlt, ?_⟩
    rw [← htake, List.take_range, Nat.min_eq_left hlt.le, List.length_range]
  · intro h
    obtain ⟨hlt, rfl⟩ := h
    have hlength : i < (List.range n).length := by simpa using hlt
    refine ⟨(List.range n).drop (i + 1), ?_⟩
    have hdrop := List.drop_eq_getElem_cons hlength
    rw [List.getElem_range] at hdrop
    rw [← hdrop, ← Nat.min_eq_left hlt.le, ← List.take_range, Nat.min_eq_left hlt.le,
      List.take_append_drop]

theorem phraseOf_eq_error_iff :
    phraseOf attr view = .error fault ↔ view.FaultyPhrase attr fault := by
  by_cases hsize : view.size = 0
  · rw [phraseOf, if_pos hsize]
    constructor
    · intro h
      cases h
      exact .empty hsize
    · intro h
      cases h with
      | empty _ => rfl
      | token hi _ _ => omega
  · rw [phraseOf_of_size_ne_zero hsize, collect_eq_error_iff]
    constructor
    · intro h
      obtain ⟨before, i, after, hrange, hbefore, hi⟩ := h
      obtain ⟨hlt, rfl⟩ := exists_range_eq_append_cons_iff.mp ⟨after, hrange⟩
      obtain ⟨htoken, rfl⟩ := textOrFault_eq_error_iff.mp hi
      refine .token hlt ?_ htoken
      intro j hj
      simpa only [textOrFault_eq_ok_iff] using hbefore j (List.mem_range.mpr hj)
    · intro h
      cases h with
      | empty hnone => exact absurd hnone hsize
      | @token i hi hbefore htoken =>
          obtain ⟨after, hrange⟩ := exists_range_eq_append_cons_iff.mpr ⟨hi, rfl⟩
          refine ⟨List.range i, i, after, hrange, ?_, textOrFault_eq_error_iff.mpr ⟨htoken, rfl⟩⟩
          intro j hj
          simpa only [textOrFault_eq_ok_iff] using hbefore j (List.mem_range.mp hj)

end Phrases

/-! ## Steps and changes -/

variable [Hashing]

namespace PhraseBook

/-- Makes a change of the book in place, step by step: the phrases are entered one after the
other, and the rule of a key is taken out before it is known whether there was one. -/
def changeInSteps : PhraseChange σ → Procedure (PhraseBook σ) Unit
  | .add key handler phrases => do
    let b ← getThe (PhraseBook σ)
    match collect (phraseOf b.attr) phrases with
    | .error fault => throw fault
    | .ok sequences =>
      if sequences = [] then throw (.invalidPattern (.noPhrases key))
      modify fun b => { b with lexicon := b.lexicon.add key }
      forM sequences fun sequence =>
        modify fun b => { b with trie := b.trie.insert (.of key) sequence }
      let known := match b.rules.find? (.of key) with
        | some r => r.phrases
        | none => []
      modify fun b => { b with
        rules := b.rules.insert (.of key) ⟨known ++ sequences, handler⟩ }
  | .remove key => do
    let b ← getThe (PhraseBook σ)
    modify fun b => { b with rules := b.rules.erase (.of key) }
    if b.rules.contains (.of key) then
      modify fun b => { b with trie := b.trie.forget (.of key) }
    else throw (.notFound key)

variable {b : PhraseBook σ} {attr : TextAttribute} {log : Registrations} {key : String}
  {handler : Option (Handler σ)} {phrases : List TokenView} {fault : Fault}

omit [Hashing] in
theorem perform_insert_bind (key : TextId) (sequences : List (List TextId))
    (k : Unit → Procedure (PhraseBook σ) Unit) (b : PhraseBook σ) :
    Procedure.perform ((forM sequences fun sequence =>
      modify fun b => { b with trie := b.trie.insert key sequence }) >>= k) b =
    Procedure.perform (k ()) { b with trie := b.trie.insertAll key sequences } := by
  induction sequences generalizing b with
  | nil => rfl
  | cons sequence rest ih =>
      rw [List.forM_cons, bind_assoc, Procedure.perform_modify_bind, ih]
      rfl

theorem perform_add (b : PhraseBook σ) (key : String) (handler : Option (Handler σ))
    (phrases : List TokenView) :
    (changeInSteps (.add key handler phrases)).perform b =
      ((b.change (.add key handler phrases)).map fun _ => (),
        b.attempt (.add key handler phrases)) := by
  cases hcollect : collect (phraseOf b.attr) phrases with
  | error fault => simp [changeInSteps, attempt, change, PhraseBook.add, hcollect, Except.map]
  | ok sequences =>
      by_cases hnil : sequences = []
      · simp [changeInSteps, attempt, change, PhraseBook.add, hcollect, hnil, Except.map]
      · cases hfind : b.rules.find? (.of key) <;>
          simp [changeInSteps, attempt, change, PhraseBook.add, hcollect, hnil, hfind, Except.map,
            perform_insert_bind]

/-- Where there is nothing to take out, taking it out leaves the rules from before. -/
theorem perform_remove (b : PhraseBook σ) (key : String) :
    (changeInSteps (.remove key)).perform b =
      ((b.change (.remove key)).map fun _ => (), b.attempt (.remove key)) := by
  cases hfind : b.rules.find? (.of key) with
  | none =>
      have herase := Table.erase_of_find?_eq_none hfind
      simp [changeInSteps, attempt, change, PhraseBook.remove, Table.contains, hfind, herase,
        Except.map]
  | some r =>
      simp [changeInSteps, attempt, change, PhraseBook.remove, Table.contains, hfind, Except.map]

/-- Made in steps, a change has the result that it has at once, and leaves the book that an attempt
leaves. -/
theorem perform_changeInSteps (b : PhraseBook σ) (c : PhraseChange σ) :
    (changeInSteps c).perform b = ((b.change c).map fun _ => (), b.attempt c) := by
  cases c with
  | add key handler phrases => exact perform_add b key handler phrases
  | remove key => exact perform_remove b key

theorem attempt_of_error {c : PhraseChange σ} (h : b.change c = .error fault) :
    b.attempt c = b := by
  rw [attempt, h]

/-- A change that is refused on its way leaves the book as it was. -/
theorem perform_of_error {c : PhraseChange σ} (h : ((changeInSteps c).perform b).1 = .error fault) :
    ((changeInSteps c).perform b).2 = b := by
  rw [perform_changeInSteps] at h ⊢
  cases hchange : b.change c with
  | ok b' =>
      rw [hchange] at h
      cases h
  | error found => exact attempt_of_error hchange

/-- The second phrase has no tokens. The first could have been entered, but leaves no node. -/
example :
    letI := Hashing.folded
    let word : TokenView := ⟨1, fun _ _ => .text (.of "word")⟩
    let nothing : TokenView := ⟨0, fun _ _ => .flag false⟩
    let out := (changeInSteps (.add "A" none [word, nothing])).perform ({} : PhraseBook Unit)
    out.2.trie.size = 1 ∧ out.2.size = 0 := by
  decide +kernel

/-! ## Reasons to refuse -/

/-- Phrases are refused when there are none, or for the first that falls short. -/
theorem add_eq_error_iff : b.add key handler phrases = .error fault ↔
    phrases = [] ∧ fault = .invalidPattern (.noPhrases key) ∨
    ∃ before view after, phrases = before ++ view :: after ∧
      (∀ v ∈ before, v.IsPhrase b.attr) ∧ view.FaultyPhrase b.attr fault := by
  simp only [← exists_phraseOf_eq_ok_iff, ← phraseOf_eq_error_iff]
  rw [← collect_eq_error_iff, PhraseBook.add]
  by_cases hnil : phrases = []
  · simp [hnil, collect, eq_comm]
  · cases hcollect : collect (phraseOf b.attr) phrases with
    | error found => simp [hnil]
    | ok sequences =>
        have hsequences : sequences ≠ [] := by
          rintro rfl
          cases collect_eq_ok_iff.mp hcollect
          exact hnil rfl
        simp [hnil, hsequences]

theorem Logs.remove_eq_error_iff (h : b.Logs attr log) :
    b.remove key = .error fault ↔
      (∀ phrase, (.of key, phrase) ∉ log) ∧ fault = .notFound key := by
  rw [← not_exists, ← h.known, PhraseBook.remove]
  split
  · rename_i hknown
    simp [hknown]
  · rename_i hunknown
    simp [hunknown, eq_comm]

theorem Logs.get_eq_error_iff (h : b.Logs attr log) :
    b.get key = .error fault ↔
      (∀ phrase, (.of key, phrase) ∉ log) ∧ fault = .notFound key := by
  rw [← not_exists, ← h.known, PhraseBook.get, Table.contains]
  cases b.rules.find? (.of key) with
  | none => simp [eq_comm]
  | some r => simp

/-- What a book that has the given registrations refuses and why, and that refused changes leave
it as it was, also when they are made in steps. -/
structure Refuses (b : PhraseBook σ) (attr : TextAttribute) (log : Registrations) : Prop where
  add (key : String) (handler : Option (Handler σ)) (phrases : List TokenView) (fault : Fault) :
    b.change (.add key handler phrases) = .error fault ↔
      phrases = [] ∧ fault = .invalidPattern (.noPhrases key) ∨
      ∃ before view after, phrases = before ++ view :: after ∧
        (∀ v ∈ before, v.IsPhrase attr) ∧ view.FaultyPhrase attr fault
  remove (key : String) (fault : Fault) :
    b.change (.remove key) = .error fault ↔
      (∀ phrase, (.of key, phrase) ∉ log) ∧ fault = .notFound key
  get (key : String) (fault : Fault) :
    b.get key = .error fault ↔ (∀ phrase, (.of key, phrase) ∉ log) ∧ fault = .notFound key
  perform (c : PhraseChange σ) :
    (changeInSteps c).perform b = ((b.change c).map fun _ => (), b.attempt c)
  unchanged (c : PhraseChange σ) (fault : Fault) :
    ((changeInSteps c).perform b).1 = .error fault → ((changeInSteps c).perform b).2 = b

theorem Logs.refuses (h : b.Logs attr log) : b.Refuses attr log where
  add _ _ _ _ := h.attr ▸ add_eq_error_iff
  remove _ _ := h.remove_eq_error_iff
  get _ _ := h.get_eq_error_iff
  perform := perform_changeInSteps b
  unchanged _ _ := perform_of_error

end PhraseBook

/-- After any changes, books refuse additions for the first pattern or phrase that is faulty or for
having none, and removals and lookups for keys that are not there. What they refuse changes
nothing, however many steps had been made on the way. -/
theorem refused_changes_change_nothing (options : Options) (changes : List (RuleChange σ))
    (attr : TextAttribute) (entries : List (PhraseChange σ)) :
    (RuleBook.history options changes).Refuses options.unknown
      (Ledger.history .of options.unknown changes).keys ∧
    (PhraseBook.history attr entries).Refuses attr (PhraseBook.survivors attr entries) :=
  ⟨(RuleBook.keeps_history options changes).refuses, (PhraseBook.logs_history attr entries).refuses⟩

end SpanRules
