import SpanRules.Unicode.WhiteSpace

/-! # Cutting and joining texts -/

namespace SpanRules

/-- Cuts a text at every separator. The fields stand in order, and empty ones count. -/
def fields (separates : Char → Bool) : List Char → List (List Char)
  | [] => [[]]
  | c :: cs =>
    if separates c then [] :: fields separates cs
    else match fields separates cs with
      | [] => [[c]]
      | field :: rest => (c :: field) :: rest

/-- The words of a text: its fields between white space that are not empty. -/
def wordsOf (text : String) : List String :=
  ((fields Unicode.isWhiteSpace text.toList).filter (· ≠ [])).map String.ofList

/-- Texts in order with one space between neighbours. -/
def joinWords (texts : List String) : String :=
  String.ofList ([' '].intercalate (texts.map String.toList))

/-- Nothing but white space. -/
def isBlank (text : String) : Bool :=
  text.toList.all Unicode.isWhiteSpace

/-- There is always a field. -/
theorem fields_ne_nil (separates : Char → Bool) (cs : List Char) : fields separates cs ≠ [] := by
  cases cs with
  | nil => simp [fields]
  | cons c cs =>
    rw [fields]
    split
    · simp
    · split <;> simp

/-- A separator opens a new field. -/
theorem fields_cons_of_separates {separates : Char → Bool} {c : Char} (h : separates c = true)
    (cs : List Char) : fields separates (c :: cs) = [] :: fields separates cs := by
  simp [fields, h]

/-- No field holds a separator. -/
theorem not_separates_of_mem_fields {separates : Char → Bool} {cs field : List Char} {c : Char}
    (hf : field ∈ fields separates cs) (hc : c ∈ field) : separates c = false := by
  induction cs generalizing field with
  | nil => simp_all [fields]
  | cons d cs ih =>
    rw [fields] at hf
    split at hf
    · rcases List.mem_cons.1 hf with rfl | hf
      · simp at hc
      · exact ih hf hc
    · rename_i hd
      split at hf
      · simp_all
      · rename_i field' rest heq
        rcases List.mem_cons.1 hf with rfl | hf
        · rcases List.mem_cons.1 hc with rfl | hc
          · simpa using hd
          · exact ih (heq ▸ List.mem_cons_self) hc
        · exact ih (heq ▸ List.mem_cons_of_mem _ hf) hc

end SpanRules
