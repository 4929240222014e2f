import Mathlib.Data.List.Basic
import SpanRules.PhraseBook.Search
import SpanRules.Proofs.PhraseBook.Trie

/-! # The registrations of a book of phrases

A registration is a phrase entered under a key. Successful additions log their registrations in
order, and a successful removal strikes those of its key. The trie of a book holds, at the end of
each path, the keys of the registrations of that phrase by their first entry in the log.
-/

namespace SpanRules

/-- The registrations in order, each with its key and its phrase. -/
abbrev Registrations :=
  List (TextId × List TextId)

/-! ## First entries -/

section EraseDups

variable {α : Type} [BEq α] [LawfulBEq α]

theorem eraseDups_concat (xs : List α) (x : α) :
    (xs ++ [x]).eraseDups = if x ∈ xs then xs.eraseDups else xs.eraseDups ++ [x] := by
  rw [List.eraseDups_append]
  by_cases hx : x ∈ xs
  · simp [List.removeAll, hx]
  · simp [List.removeAll, hx, List.eraseDups_cons]

theorem eraseDups_filter (p : α → Bool) (xs : List α) :
    (xs.filter p).eraseDups = xs.eraseDups.filter p := by
  induction xs using List.reverseRecOn with
  | nil => rfl
  | append_singleton xs x ih =>
      rw [List.filter_append, eraseDups_concat]
      by_cases hp : p x = true
      · rw [List.filter_singleton, hp, cond_true, eraseDups_concat, ih]
        simp only [List.mem_filter, hp, and_true]
        split
        · rfl
        · simp [hp]
      · simp only [List.filter_singleton, hp, cond_false, List.append_nil, ih]
        split
        · rfl
        · simp [hp]

/-- Without repetitions the elements stand in the order of their first entries. -/
theorem pairwise_eraseDups (xs : List α) :
    xs.eraseDups.Pairwise fun a b => xs.idxOf a < xs.idxOf b := by
  induction xs using List.reverseRecOn with
  | nil => exact .nil
  | append_singleton xs x ih =>
      have hold : xs.eraseDups.Pairwise fun a b => (xs ++ [x]).idxOf a < (xs ++ [x]).idxOf b := by
        refine ih.imp_of_mem ?_
        intro a b ha hb hlt
        rw [List.mem_eraseDups] at ha hb
        rwa [List.idxOf_append_of_mem ha, List.idxOf_append_of_mem hb]
      rw [eraseDups_concat]
      split
      · exact hold
      · rename_i hx
        refine List.pairwise_append.mpr ⟨hold, List.pairwise_singleton _ _, ?_⟩
        intro a ha b hb
        rw [List.mem_eraseDups] at ha
        obtain rfl := List.mem_singleton.mp hb
        rw [List.idxOf_append_of_mem ha, List.idxOf_append_of_notMem hx]
        exact Nat.lt_add_right _ (List.idxOf_lt_length_of_mem ha)

end EraseDups

/-! ## Keys of a phrase -/

namespace Registrations

variable {log : Registrations} {key : TextId} {phrase path : List TextId}

/-- The keys with a registration of the phrase, by the first one of each. -/
def keysOf (log : Registrations) (phrase : List TextId) : List TextId :=
  (log.eraseDups.filter (·.2 = phrase)).map (·.1)

theorem mem_keysOf : key ∈ log.keysOf phrase ↔ (key, phrase) ∈ log := by
  simp [keysOf]

theorem keysOf_concat :
    keysOf (log ++ [(key, phrase)]) path =
      if path = phrase then Trie.withKey key (log.keysOf path) else log.keysOf path := by
  rw [keysOf, eraseDups_concat]
  by_cases hpath : path = phrase
  · subst hpath
    rw [if_pos rfl, Trie.withKey]
    by_cases hknown : (key, path) ∈ log
    · rw [if_pos hknown, if_pos (mem_keysOf.mpr hknown), keysOf]
    · rw [if_neg hknown, if_neg (mt mem_keysOf.mp hknown), keysOf]
      simp
  · rw [if_neg hpath, keysOf]
    split
    · rfl
    · simp [Ne.symm hpath]

theorem keysOf_filter_ne :
    keysOf (log.filter (·.1 ≠ key)) path = (log.keysOf path).filter (· ≠ key) := by
  rw [keysOf, eraseDups_filter, keysOf, List.filter_map, List.filter_filter, List.filter_filter]
  congr 2
  funext r
  exact Bool.and_comm _ _

theorem pairwise_keysOf :
    (log.keysOf phrase).Pairwise fun j k => log.idxOf (j, phrase) < log.idxOf (k, phrase) := by
  have hentries := (pairwise_eraseDups log).filter (·.2 = phrase)
  refine List.pairwise_map.mpr (hentries.imp_of_mem ?_)
  intro r s hr hs hlt
  obtain ⟨j, p⟩ := r
  obtain ⟨k, q⟩ := s
  obtain rfl : p = phrase := by simpa using (List.mem_filter.mp hr).2
  obtain rfl : q = p := by simpa using (List.mem_filter.mp hs).2
  exact hlt

end Registrations

/-! ## The log of a book -/

/-- The texts of phrases, when all of them can be entered. -/
def sequencesOf (attr : TextAttribute) (phrases : List TokenView) : List (List TextId) :=
  match collect (phraseOf attr) phrases with
  | .ok sequences => sequences
  | .error _ => []

namespace PhraseBook

variable [Hashing] {σ : Type} {b : PhraseBook σ} {attr : TextAttribute} {log : Registrations}

/-- The log after a change. Only a change that succeeds is logged. -/
def logged (b : PhraseBook σ) (log : Registrations) (c : PhraseChange σ) : Registrations :=
  match b.change c with
  | .error _ => log
  | .ok _ =>
    match c with
    | .add key _ phrases => log ++ (sequencesOf b.attr phrases).map (.of key, ·)
    | .remove key => log.filter (·.1 ≠ .of key)

/-- The log after changes in order. -/
def survivorsFrom (b : PhraseBook σ) (log : Registrations) :
    List (PhraseChange σ) → Registrations
  | [] => log
  | c :: rest => (b.attempt c).survivorsFrom (b.logged log c) rest

/-- The registrations that survive the changes of an empty book. -/
def survivors (attr : TextAttribute) (changes : List (PhraseChange σ)) : Registrations :=
  survivorsFrom { attr } [] changes

/-- The trie and the rules of the book fit the log. -/
structure Logs (b : PhraseBook σ) (attr : TextAttribute) (log : Registrations) : Prop where
  attr : b.attr = attr
  linked : b.trie.WellLinked
  ends (path : List TextId) : b.trie.endsBelow 0 path = log.keysOf path
  known (id : TextId) : b.rules.contains id = true ↔ ∃ phrase, (id, phrase) ∈ log

omit [Hashing] in
theorem ends_insertAll {t : Trie} (key : TextId) (sequences : List (List TextId))
    (h : t.WellLinked) (hends : ∀ path, t.endsBelow 0 path = log.keysOf path) :
    (t.insertAll key sequences).WellLinked ∧ ∀ path,
      (t.insertAll key sequences).endsBelow 0 path =
        Registrations.keysOf (log ++ sequences.map (key, ·)) path := by
  induction sequences generalizing t log with
  | nil =>
      rw [List.map_nil, List.append_nil]
      exact ⟨h, hends⟩
  | cons phrase rest ih =>
      have hfirst (path : List TextId) : (t.insert key phrase).endsBelow 0 path =
          Registrations.keysOf (log ++ [(key, phrase)]) path := by
        rw [Trie.endsBelow_insert h, Registrations.keysOf_concat, hends]
      have hlinked : (t.insert key phrase).WellLinked := h.insert
      have hrest := ih hlinked hfirst
      rwa [List.append_assoc] at hrest

/-- What a change adds to the log or strikes from it, whether it succeeds or not: one that is
refused has no registrations to add or to strike. -/
def register (attr : TextAttribute) (log : Registrations) : PhraseChange σ → Registrations
  | .add key _ phrases => log ++ (sequencesOf attr phrases).map (.of key, ·)
  | .remove key => log.filter (·.1 ≠ .of key)

theorem Logs.of_refused (h : b.Logs attr log) {c : PhraseChange σ} {fault : Fault}
    (hchange : b.change c = .error fault) (hlog : register attr log c = log) :
    b.logged log c = register attr log c ∧ (b.attempt c).Logs attr (b.logged log c) := by
  unfold logged attempt
  rw [hchange]
  exact ⟨hlog.symm, h⟩

theorem exists_change_add (key : String) (handler : Option (Handler σ))
    {phrases : List TokenView} {sequences : List (List TextId)}
    (hcollect : collect (phraseOf b.attr) phrases = .ok sequences) (hne : sequences ≠ []) :
    ∃ r, b.change (.add key handler phrases) = .ok { b with
      lexicon := b.lexicon.add key
      trie := b.trie.insertAll (.of key) sequences
      rules := b.rules.insert (.of key) r } := by
  simp only [change, PhraseBook.add, hcollect, List.isEmpty_iff, if_neg hne]
  exact ⟨_, rfl⟩

omit [Hashing] in
theorem Logs.known_insert (h : b.Logs attr log) {key : TextId} {r : PhraseRule σ}
    {sequences : List (List TextId)} (hne : sequences ≠ []) (id : TextId) :
    (b.rules.insert key r).contains id = true ↔
      ∃ phrase, (id, phrase) ∈ log ++ sequences.map (key, ·) := by
  rw [Table.contains, Table.find?_insert]
  by_cases hid : id = key
  · obtain ⟨phrase, hphrase⟩ := List.exists_mem_of_ne_nil sequences hne
    have hentered : (id, phrase) ∈ log ++ sequences.map (key, ·) := by
      simp [hid, hphrase]
    rw [if_pos hid]
    exact iff_of_true rfl ⟨phrase, hentered⟩
  · have hknown := h.known id
    rw [Table.contains] at hknown
    rw [if_neg hid]
    simp [hknown, Ne.symm hid]

theorem Logs.add (h : b.Logs attr log) (key : String) (handler : Option (Handler σ))
    (phrases : List TokenView) :
    b.logged log (.add key handler phrases) = register attr log (.add key handler phrases) ∧
      (b.attempt (.add key handler phrases)).Logs attr
        (b.logged log (.add key handler phrases)) := by
  obtain rfl := h.attr
  cases hcollect : collect (phraseOf b.attr) phrases with
  | error fault =>
      have hchange : b.change (.add key handler phrases) = .error fault := by
        simp only [change, PhraseBook.add, hcollect]
      apply h.of_refused hchange
      simp [register, sequencesOf, hcollect]
  | ok sequences =>
      have hsequences : sequencesOf b.attr phrases = sequences := by
        rw [sequencesOf, hcollect]
      by_cases hnil : sequences = []
      · have hchange : b.change (.add key handler phrases) =
            .error (.invalidPattern (.noPhrases key)) := by
          simp [change, PhraseBook.add, hcollect, hnil]
        apply h.of_refused hchange
        simp [register, hsequences, hnil]
      · obtain ⟨r, hr⟩ := exists_change_add key handler hcollect hnil
        obtain ⟨hlinked, hends⟩ := ends_insertAll (.of key) sequences h.linked h.ends
        simp only [logged, attempt, hr, register, hsequences, true_and]
        exact ⟨rfl, hlinked, hends, h.known_insert hnil⟩

theorem Logs.remove (h : b.Logs attr log) (key : String) :
    b.logged log (.remove key) = log.filter (·.1 ≠ .of key) ∧
      (b.attempt (.remove key)).Logs attr (b.logged log (.remove key)) := by
  by_cases hknown : b.rules.contains (.of key) = true
  · have hchange : b.change (.remove key) = .ok { b with
        trie := b.trie.forget (.of key), rules := b.rules.erase (.of key) } := by
      rw [change, PhraseBook.remove, if_pos hknown]
    unfold logged attempt
    rw [hchange]
    refine ⟨rfl, h.attr, h.linked.forget, ?_, ?_⟩
    · intro path
      change (b.trie.forget (.of key)).endsBelow 0 path = _
      rw [Trie.endsBelow_forget, h.ends, Registrations.keysOf_filter_ne]
    · intro id
      have hid := h.known id
      rw [Table.contains] at hid ⊢
      rw [Table.find?_erase]
      by_cases hsame : id = .of key
      · simp [hsame]
      · simp [hsame, hid]
  · have hchange : b.change (.remove key) = .error (.notFound key) := by
      rw [change, PhraseBook.remove, if_neg hknown]
    apply h.of_refused hchange
    apply List.filter_eq_self.mpr
    intro r hr
    apply decide_eq_true
    intro hkey
    exact hknown ((h.known _).mpr ⟨r.2, hkey ▸ hr⟩)

theorem Logs.change (h : b.Logs attr log) (c : PhraseChange σ) :
    b.logged log c = register attr log c ∧ (b.attempt c).Logs attr (b.logged log c) := by
  cases c with
  | add key handler phrases => exact h.add key handler phrases
  | remove key => exact h.remove key

/-! ## Histories -/

theorem Logs.foldl (h : b.Logs attr log) (changes : List (PhraseChange σ)) :
    b.survivorsFrom log changes = changes.foldl (register attr) log ∧
      (changes.foldl PhraseBook.attempt b).Logs attr (b.survivorsFrom log changes) := by
  induction changes generalizing b log with
  | nil => exact ⟨rfl, h⟩
  | cons c rest ih =>
      obtain ⟨hlogged, hlogs⟩ := h.change c
      rw [survivorsFrom, List.foldl_cons, List.foldl_cons, ← hlogged]
      exact ih hlogs

omit [Hashing] in
theorem logs_empty (attr : TextAttribute) : Logs (σ := σ) { attr } attr [] where
  attr := rfl
  linked := Trie.wellLinked_empty
  ends _ := Trie.endsBelow_empty
  known := by simp [Table.contains]

/-- After any changes the trie and the rules of a book fit the surviving registrations. -/
theorem logs_history (attr : TextAttribute) (changes : List (PhraseChange σ)) :
    (history attr changes).Logs attr (survivors attr changes) :=
  ((logs_empty attr).foldl changes).2

theorem survivors_eq (attr : TextAttribute) (changes : List (PhraseChange σ)) :
    survivors attr changes = changes.foldl (register attr) [] :=
  ((logs_empty attr).foldl changes).1

end PhraseBook

end SpanRules
