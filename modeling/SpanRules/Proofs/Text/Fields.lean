import Mathlib.Data.List.Basic
import SpanRules.Text.Fields

/-! # Cutting undoes joining

Cutting a text at white space and joining words by spaces go together: a space between two texts
separates their words, so the words of joined texts are those of each in order, and words that hold
no white space come back as they were.
-/

namespace SpanRules

/-! ## Fields -/

section Fields

variable {separates : Char → Bool} {c : Char} {xs : List Char}

/-- Between two texts a separator ends a field of the one and starts a field of the other. -/
theorem fields_append_cons (hc : separates c = true) (xs ys : List Char) :
    fields separates (xs ++ c :: ys) = fields separates xs ++ fields separates ys := by
  induction xs with
  | nil => exact fields_cons_of_separates hc ys
  | cons d xs ih =>
      rw [List.cons_append, fields, fields, ih]
      split
      · rfl
      · obtain ⟨field, rest, hfields⟩ :=
          List.exists_cons_of_ne_nil (fields_ne_nil separates xs)
        rw [hfields]
        rfl

/-- Without a separator there is one field. -/
theorem fields_eq_singleton (h : ∀ c ∈ xs, separates c = false) : fields separates xs = [xs] := by
  induction xs with
  | nil => rfl
  | cons c xs ih =>
      have hrest := ih fun d hd => h d (List.mem_cons_of_mem c hd)
      have hfirst : separates c = false := h c List.mem_cons_self
      simp [fields, hfirst, hrest]

/-- A character separates or stands in a field. -/
theorem separates_or_mem_fields (separates : Char → Bool) (hc : c ∈ xs) :
    separates c = true ∨ ∃ field ∈ fields separates xs, c ∈ field := by
  induction xs with
  | nil => cases hc
  | cons d xs ih =>
      rw [fields]
      split
      · rename_i hd
        rcases List.mem_cons.mp hc with rfl | hc
        · exact Or.inl hd
        · obtain hsep | ⟨field, hfield, hmem⟩ := ih hc
          · exact Or.inl hsep
          · exact Or.inr ⟨field, List.mem_cons_of_mem _ hfield, hmem⟩
      · obtain ⟨first, rest, hfields⟩ := List.exists_cons_of_ne_nil (fields_ne_nil separates xs)
        rw [hfields] at ih ⊢
        rcases List.mem_cons.mp hc with rfl | hc
        · exact Or.inr ⟨c :: first, List.mem_cons_self, List.mem_cons_self⟩
        · obtain hsep | ⟨field, hfield, hmem⟩ := ih hc
          · exact Or.inl hsep
          · rcases List.mem_cons.mp hfield with rfl | hfield
            · exact Or.inr ⟨d :: field, List.mem_cons_self, List.mem_cons_of_mem d hmem⟩
            · exact Or.inr ⟨field, List.mem_cons_of_mem _ hfield, hmem⟩

/-- A text holds no separator, or a last one. -/
theorem exists_last_separator (separates : Char → Bool) (xs : List Char) :
    (∀ c ∈ xs, separates c = false) ∨
      ∃ front c back, xs = front ++ c :: back ∧ separates c = true ∧
        ∀ d ∈ back, separates d = false := by
  induction xs with
  | nil => exact Or.inl fun c hc => absurd hc List.not_mem_nil
  | cons c xs ih =>
      rcases ih with hnone | ⟨front, d, back, rfl, hd, hback⟩
      · cases hc : separates c with
        | false => exact Or.inl (List.forall_mem_cons.mpr ⟨hc, hnone⟩)
        | true => exact Or.inr ⟨[], c, xs, rfl, hc, hnone⟩
      · exact Or.inr ⟨c :: front, d, back, rfl, hd, hback⟩

/-- What stands behind the last separator is the last field. -/
theorem fields_append_last {ys : List Char} (hc : separates c = true)
    (hys : ∀ d ∈ ys, separates d = false) (xs : List Char) :
    fields separates (xs ++ c :: ys) = fields separates xs ++ [ys] := by
  rw [fields_append_cons hc, fields_eq_singleton hys]

end Fields

/-! ## Joining -/

theorem joinWords_eq_intercalate (texts : List String) :
    joinWords texts = " ".intercalate texts := by
  rw [← String.toList_inj, String.toList_intercalate, joinWords, String.toList_ofList]
  rfl

@[simp] theorem joinWords_nil : joinWords [] = "" := rfl

@[simp] theorem joinWords_singleton (text : String) : joinWords [text] = text := by
  rw [joinWords_eq_intercalate, String.intercalate_singleton]

theorem joinWords_append {texts rest : List String} (htexts : texts ≠ []) (hrest : rest ≠ []) :
    joinWords (texts ++ rest) = joinWords texts ++ " " ++ joinWords rest := by
  simp only [joinWords_eq_intercalate, String.intercalate_append_of_ne_nil htexts hrest]

/-- Texts that have been joined before are joined as if they stood among the others. -/
theorem joinWords_joinWords {inner : List String} (hinner : inner ≠ []) (front back : List String) :
    joinWords (front ++ joinWords inner :: back) = joinWords (front ++ inner ++ back) := by
  have hback : joinWords (joinWords inner :: back) = joinWords (inner ++ back) := by
    cases back with
    | nil => rw [joinWords_singleton, List.append_nil]
    | cons text back =>
        have hne : text :: back ≠ [] := List.cons_ne_nil text back
        rw [joinWords_append hinner hne, ← List.singleton_append,
          joinWords_append (List.cons_ne_nil _ _) hne, joinWords_singleton]
  cases front with
  | nil => exact hback
  | cons text front =>
      have hne : text :: front ≠ [] := List.cons_ne_nil text front
      have hrest : inner ++ back ≠ [] := List.append_ne_nil_of_left_ne_nil hinner back
      rw [List.append_assoc, joinWords_append hne (List.cons_ne_nil _ _), hback,
        joinWords_append hne hrest]

/-! ## Words -/

/-- What a word of a text is: not empty, and without white space. -/
def IsWord (word : String) : Prop :=
  word ≠ "" ∧ ∀ c ∈ word.toList, Unicode.isWhiteSpace c = false

/-- A space separates the words of what stands on its two sides. -/
theorem wordsOf_append_space (x y : String) :
    wordsOf (x ++ " " ++ y) = wordsOf x ++ wordsOf y := by
  have htext : (x ++ " " ++ y).toList = x.toList ++ ' ' :: y.toList := by
    simp [String.toList_append]
  have hspace : Unicode.isWhiteSpace ' ' = true := by decide +kernel
  rw [wordsOf, htext, fields_append_cons hspace, List.filter_append, List.map_append]
  rfl

@[simp] theorem wordsOf_empty : wordsOf "" = [] := rfl

/-- The words of joined texts are those of each of them. -/
theorem wordsOf_joinWords (texts : List String) :
    wordsOf (joinWords texts) = texts.flatMap wordsOf := by
  induction texts with
  | nil => rfl
  | cons text rest ih =>
      rw [List.flatMap_cons, ← ih]
      cases rest with
      | nil => rw [joinWords_singleton, joinWords_nil, wordsOf_empty, List.append_nil]
      | cons next rest =>
          rw [← List.singleton_append,
            joinWords_append (List.cons_ne_nil _ _) (List.cons_ne_nil _ _), joinWords_singleton,
            wordsOf_append_space]

theorem isWord_of_mem_wordsOf {text word : String} (h : word ∈ wordsOf text) : IsWord word := by
  obtain ⟨field, hfield, rfl⟩ := List.mem_map.mp h
  obtain ⟨hmem, hne⟩ := List.mem_filter.mp hfield
  refine ⟨?_, ?_⟩
  · intro hempty
    have hnil : field = [] := by simpa using congrArg String.toList hempty
    simp [hnil] at hne
  · intro c hc
    rw [String.toList_ofList] at hc
    exact not_separates_of_mem_fields hmem hc

/-- A word is the only word of its text. -/
theorem IsWord.wordsOf {word : String} (h : IsWord word) : wordsOf word = [word] := by
  have hne : word.toList ≠ [] := mt String.toList_eq_nil_iff.mp h.1
  rw [SpanRules.wordsOf, fields_eq_singleton h.2]
  simp [hne]

/-- Words that are joined by spaces are the words of their text. -/
theorem wordsOf_joinWords_of_isWord {words : List String} (h : ∀ word ∈ words, IsWord word) :
    wordsOf (joinWords words) = words := by
  rw [wordsOf_joinWords]
  calc
    words.flatMap wordsOf = words.flatMap fun word => [word] :=
      List.flatMap_congr fun word hword => (h word hword).wordsOf
    _ = words := List.flatMap_singleton' words

/-- Nothing but white space is a text without words. -/
theorem isBlank_iff {text : String} : isBlank text = true ↔ wordsOf text = [] := by
  rw [isBlank, wordsOf, List.map_eq_nil_iff]
  induction text.toList with
  | nil => decide
  | cons c cs ih =>
      rw [List.all_cons, fields]
      by_cases hc : Unicode.isWhiteSpace c = true
      · simpa [hc] using ih
      · obtain ⟨field, rest, hfields⟩ :=
          List.exists_cons_of_ne_nil (fields_ne_nil Unicode.isWhiteSpace cs)
        simp [hc, hfields]

end SpanRules
