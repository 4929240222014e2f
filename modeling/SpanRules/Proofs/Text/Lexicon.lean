import Mathlib.Data.Finset.Dedup
import Mathlib.Data.Finset.Insert
import Mathlib.Data.Finset.Card
import SpanRules.Proofs.Text.Distinct
import SpanRules.Text.Lexicon

/-! # Lexicons find what was entered

Of the texts of one identity a lexicon finds the one that was entered first. Where the texts entered
are told apart, it finds each of them.
-/

namespace SpanRules.Lexicon

variable [Hashing] {l : Lexicon} {text found : String} {id : TextId}

/-- Every text is held under its own identity. -/
def Faithful (l : Lexicon) : Prop :=
  ∀ id text, l.texts.find? id = some text → id = .of text

theorem faithful_empty : Faithful {} := by
  intro id text h
  simp at h

theorem Faithful.add (h : l.Faithful) : (l.add text).Faithful := by
  unfold Lexicon.add
  split
  · exact h
  · intro id found hfound
    rw [Table.find?_insert] at hfound
    split at hfound
    · rename_i hid
      rw [hid, Option.some.inj hfound]
    · exact h id found hfound

theorem Faithful.of_get? (h : l.Faithful) (hget : l.get? id = some text) : .of text = id := by
  rw [get?] at hget
  split at hget
  · rename_i hempty
    rw [← Option.some.inj hget, hempty, TextId.of_empty]
  · exact (h id text hget).symm

/-- No text is held that is not among the given ones. -/
def Within (l : Lexicon) (texts : List String) : Prop :=
  ∀ id text, l.texts.find? id = some text → text ∈ texts

omit [Hashing] in
theorem within_empty (texts : List String) : Within {} texts := by
  intro id text h
  simp at h

theorem Within.add {texts : List String} (h : l.Within texts) (htext : text ∈ texts) :
    (l.add text).Within texts := by
  unfold Lexicon.add
  split
  · exact h
  · intro id found hfound
    rw [Table.find?_insert] at hfound
    split at hfound
    · exact Option.some.inj hfound ▸ htext
    · exact h id found hfound

/-- Where the texts are told apart, what is found for one of them is that text. -/
theorem Within.eq_of_get? {texts : List String} (h : l.Within texts) (hfaithful : l.Faithful)
    (hdistinct : TextId.DistinctOn texts) (htext : text ∈ texts)
    (hget : l.get? (.of text) = some found) : found = text := by
  have hid : TextId.of found = .of text := hfaithful.of_get? hget
  rw [get?] at hget
  split at hget
  · rename_i hempty
    rw [TextId.of_eq_empty_iff.mp hempty, Option.some.inj hget]
  · exact hdistinct found (h _ found hget) text htext hid

/-- After a text has been entered, one of its identity is found. -/
theorem exists_get?_add (l : Lexicon) (text : String) :
    ∃ found, (l.add text).get? (.of text) = some found := by
  by_cases hempty : text = ""
  · rw [hempty, TextId.of_empty, get?_empty]
    exact ⟨"", rfl⟩
  · rw [get?, if_neg (mt TextId.of_eq_empty_iff.mp hempty), Lexicon.add]
    split
    · rename_i hknown
      exact Option.isSome_iff_exists.mp (hknown.resolve_left hempty)
    · rw [Table.find?_insert, if_pos rfl]
      exact ⟨text, rfl⟩

/-- What has been found is found again, whatever is entered. -/
theorem get?_add_of_get? (h : l.get? id = some found) : (l.add text).get? id = some found := by
  unfold get? at h ⊢
  split at h
  · rename_i hempty
    rwa [if_pos hempty]
  · rename_i hne
    rw [if_neg hne, Lexicon.add]
    split
    · exact h
    · rename_i hnew
      rw [Table.find?_insert]
      split
      · rename_i hid
        subst hid
        rw [Table.contains, h] at hnew
        simp at hnew
      · exact h

theorem get?_addAll_of_get? (h : l.get? id = some found) (texts : List String) :
    (l.addAll texts).get? id = some found := by
  induction texts generalizing l with
  | nil => exact h
  | cons text rest ih => exact ih (get?_add_of_get? h)

/-- The lexicon finds, of the texts of a list, the first of each identity, and counts the
identities. The empty text counts for nothing. -/
structure Holds (l : Lexicon) (entered : List String) : Prop where
  find?_eq (id : TextId) : l.texts.find? id =
    if id = .empty then none else entered.find? (TextId.of · = id)
  size : l.size = ((entered.map TextId.of).toFinset.erase .empty).card

variable {entered : List String}

theorem holds_nil : Holds {} [] where
  find?_eq id := by simp
  size := rfl

/-- Looking an identity up in the lexicon is looking for it among the texts. -/
theorem Holds.get?_eq (h : l.Holds entered) (id : TextId) :
    l.get? id = ("" :: entered).find? (TextId.of · = id) := by
  rw [get?, h.find?_eq, List.find?_cons, TextId.of_empty]
  by_cases hempty : id = .empty
  · simp [hempty]
  · simp [hempty, Ne.symm hempty]

theorem Holds.contains_texts_iff (h : l.Holds entered) :
    l.texts.contains id = true ↔ id ≠ .empty ∧ id ∈ entered.map TextId.of := by
  rw [Table.contains, h.find?_eq]
  by_cases hempty : id = .empty
  · simp [hempty]
  · simp [hempty]

theorem Holds.contains_iff (h : l.Holds entered) :
    l.contains text = true ↔ TextId.of text ∈ ("" :: entered).map TextId.of := by
  rw [contains, Bool.or_eq_true, decide_eq_true_iff, h.contains_texts_iff, List.map_cons,
    List.mem_cons, TextId.of_empty]
  tauto

/-- A text whose identity has come before is never the first of an identity. -/
theorem find?_concat_of_mem (hmem : .of text ∈ entered.map TextId.of) (id : TextId) :
    (entered ++ [text]).find? (TextId.of · = id) = entered.find? (TextId.of · = id) := by
  rw [List.find?_append]
  by_cases hid : TextId.of text = id
  · obtain ⟨found, hfound, hsame⟩ := List.mem_map.mp hmem
    apply Option.or_of_isSome
    rw [List.find?_isSome]
    exact ⟨found, hfound, decide_eq_true (hsame.trans hid)⟩
  · simp [hid]

/-- A text of a new identity is the first of it. -/
theorem find?_concat_of_not_mem (hnew : .of text ∉ entered.map TextId.of) (id : TextId) :
    (entered ++ [text]).find? (TextId.of · = id) =
      if id = .of text then some text else entered.find? (TextId.of · = id) := by
  rw [List.find?_append]
  by_cases hid : id = .of text
  · have hnone : entered.find? (TextId.of · = .of text) = none := by
      rw [List.find?_eq_none]
      intro other hother hsame
      exact hnew (List.mem_map.mpr ⟨other, hother, of_decide_eq_true hsame⟩)
    simp [hid, hnone]
  · simp [hid, Ne.symm hid]

/-- One more text brings its identity along, if it has one. -/
theorem erase_toFinset_concat (entered : List String) (text : String) :
    ((entered ++ [text]).map TextId.of).toFinset.erase .empty =
      if text = "" then (entered.map TextId.of).toFinset.erase .empty
      else insert (.of text) ((entered.map TextId.of).toFinset.erase .empty) := by
  have hinsert : ((entered ++ [text]).map TextId.of).toFinset =
      insert (.of text) (entered.map TextId.of).toFinset := by
    simp
  rw [hinsert]
  split_ifs with hempty
  · rw [hempty, TextId.of_empty, Finset.erase_insert_eq_erase]
  · exact Finset.erase_insert_of_ne (mt TextId.of_eq_empty_iff.mp hempty)

theorem Holds.add_of_known (h : l.Holds entered)
    (hold : text = "" ∨ l.texts.contains (.of text) = true) :
    (l.add text).Holds (entered ++ [text]) := by
  rw [Lexicon.add, if_pos hold]
  constructor
  · intro id
    rw [h.find?_eq]
    split_ifs with hid
    · rfl
    · rcases hold with rfl | hknown
      · simp [Ne.symm hid]
      · rw [find?_concat_of_mem (h.contains_texts_iff.mp hknown).2]
  · rw [h.size, erase_toFinset_concat]
    split_ifs with hempty
    · rfl
    · have hknown := h.contains_texts_iff.mp (hold.resolve_left hempty)
      rw [Finset.insert_eq_of_mem]
      exact Finset.mem_erase.mpr ⟨hknown.1, List.mem_toFinset.mpr hknown.2⟩

theorem Holds.add_of_new (h : l.Holds entered)
    (hnew : ¬(text = "" ∨ l.texts.contains (.of text) = true)) :
    (l.add text).Holds (entered ++ [text]) := by
  obtain ⟨hne, hcontains⟩ := not_or.mp hnew
  have hid : TextId.of text ≠ .empty := mt TextId.of_eq_empty_iff.mp hne
  have hmem : .of text ∉ entered.map TextId.of :=
    fun hmem => hcontains (h.contains_texts_iff.mpr ⟨hid, hmem⟩)
  rw [Lexicon.add, if_neg hnew]
  constructor
  · intro id
    rw [Table.find?_insert, h.find?_eq, find?_concat_of_not_mem hmem]
    by_cases hsame : id = .of text
    · simp [hsame, hid]
    · simp [hsame]
  · rw [erase_toFinset_concat, if_neg hne, Finset.card_insert_of_notMem (by simp [hmem]), ← h.size,
      Lexicon.size, Table.size_insert, if_neg hcontains]
    rfl

theorem Holds.add (h : l.Holds entered) : (l.add text).Holds (entered ++ [text]) := by
  by_cases hold : text = "" ∨ l.texts.contains (.of text) = true
  · exact h.add_of_known hold
  · exact h.add_of_new hold

theorem Holds.addAll (h : l.Holds entered) (texts : List String) :
    (l.addAll texts).Holds (entered ++ texts) := by
  induction texts generalizing l entered with
  | nil => rwa [List.append_nil]
  | cons text rest ih =>
      rw [Lexicon.addAll, List.foldl_cons, ← List.singleton_append, ← List.append_assoc]
      exact ih h.add

/-! ## Texts that are told apart -/

/-- Among texts that are told apart there is one at most of an identity. -/
theorem find?_of_eq_some_iff (hdistinct : TextId.DistinctOn entered) :
    entered.find? (TextId.of · = id) = some text ↔ TextId.of text = id ∧ text ∈ entered := by
  constructor
  · intro hfind
    exact ⟨by simpa using List.find?_some hfind, List.mem_of_find?_eq_some hfind⟩
  · rintro ⟨rfl, hmem⟩
    cases hfind : entered.find? (TextId.of · = TextId.of text) with
    | none => simpa using List.find?_eq_none.mp hfind text hmem
    | some found =>
        have hid : TextId.of found = TextId.of text := by simpa using List.find?_some hfind
        rw [hdistinct found (List.mem_of_find?_eq_some hfind) text hmem hid]

theorem Holds.get?_of_mem (h : l.Holds entered) (hdistinct : TextId.DistinctOn entered)
    (hmem : text ∈ "" :: entered) : l.get? (.of text) = some text := by
  rw [h.get?_eq, find?_of_eq_some_iff hdistinct.cons_empty]
  exact ⟨rfl, hmem⟩

theorem Holds.contains_iff_of_distinct (h : l.Holds entered)
    (hdistinct : TextId.DistinctOn (text :: entered)) :
    l.contains text = true ↔ text ∈ "" :: entered := by
  rw [h.contains_iff, List.mem_map]
  constructor
  · rintro ⟨other, hother, hid⟩
    have hsub : "" :: entered ⊆ "" :: text :: entered :=
      List.cons_subset_cons "" (List.subset_cons_self text entered)
    exact hdistinct.cons_empty other (hsub hother) text (by simp) hid ▸ hother
  · intro hmem
    exact ⟨text, hmem, rfl⟩

theorem Holds.size_of_distinct (h : l.Holds entered) (hdistinct : TextId.DistinctOn entered) :
    l.size = (entered.toFinset.erase "").card := by
  have himage : (entered.map TextId.of).toFinset.erase .empty =
      (entered.toFinset.erase "").image TextId.of := by
    ext id
    simp only [Finset.mem_erase, List.mem_toFinset, List.mem_map, Finset.mem_image]
    constructor
    · rintro ⟨hne, text, hmem, rfl⟩
      exact ⟨text, ⟨mt TextId.of_eq_empty_iff.mpr hne, hmem⟩, rfl⟩
    · rintro ⟨text, ⟨hne, hmem⟩, rfl⟩
      exact ⟨mt TextId.of_eq_empty_iff.mp hne, text, hmem, rfl⟩
  rw [h.size, himage, Finset.card_image_of_injOn]
  intro text htext other hother hid
  have hmem {x : String} (hx : x ∈ ↑(entered.toFinset.erase "")) : x ∈ entered :=
    List.mem_toFinset.mp (Finset.mem_of_mem_erase hx)
  exact hdistinct text (hmem htext) other (hmem hother) hid

/-- Lexicons that hold the same texts find the same and are of one size, in whatever order the texts
have been entered. -/
theorem Holds.alike {m : Lexicon} {others : List String} (h : l.Holds entered) (hm : m.Holds others)
    (hdistinct : TextId.DistinctOn entered) (hsame : ∀ text, text ∈ entered ↔ text ∈ others) :
    (∀ id, l.get? id = m.get? id) ∧ l.size = m.size := by
  have hothers : TextId.DistinctOn others := hdistinct.mono fun text => (hsame text).mpr
  constructor
  · intro id
    apply Option.ext
    intro text
    simp only [h.get?_eq, hm.get?_eq, find?_of_eq_some_iff hdistinct.cons_empty,
      find?_of_eq_some_iff hothers.cons_empty, List.mem_cons, hsame]
  · have hset : entered.toFinset = others.toFinset := by
      ext text
      rw [List.mem_toFinset, List.mem_toFinset, hsame]
    rw [h.size_of_distinct hdistinct, hm.size_of_distinct hothers, hset]

end SpanRules.Lexicon
