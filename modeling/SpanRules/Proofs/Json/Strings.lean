import Mathlib.Data.Char
import SpanRules.Json.Printer
import SpanRules.Json.Reader

/-! # Printed strings

A string is printed on one line, and reading what has been printed gives the string back. Of the
escapes that a reader accepts the printer uses one for each character: a letter behind a backslash
where there is one, four digits for other control characters, and none for what may stand as it is.
-/

namespace SpanRules

/-! ## No newlines -/

theorem digitChar_ne_newline : ∀ n < 16, Nat.digitChar n ≠ '\n' := by
  decide

/-- A newline is escaped, and no escape holds one. -/
theorem newline_not_mem_escape (c : Char) : '\n' ∉ (Json.escape c).toList := by
  unfold Json.escape
  split_ifs with _ _ _ _ hne _ _ hlt
  · decide
  · decide
  · decide
  · decide
  · decide
  · decide
  · decide
  · have hcode : c.toNat < 32 := hlt
    have hhigh := digitChar_ne_newline (c.toNat / 16) (by omega)
    have hlow := digitChar_ne_newline (c.toNat % 16) (by omega)
    simp [hexByte, hhigh.symm, hlow.symm]
  · simp [Char.toString, Ne.symm hne, String.toList_singleton]

theorem newline_not_mem_printString (text : String) : '\n' ∉ (Json.printString text).toList := by
  simp [Json.printString, String.toList_join, newline_not_mem_escape]

/-! ## Reading back -/

namespace StringUnit

/-- The unit that a printed character is read as. -/
def ofPrinted (c : Char) : StringUnit :=
  if c < ' ' ∧ c ∉ ['\x08', '\x0c', '\n', '\r', '\t'] then .code c.toNat else .char c

/-- A code unit that is no half of a pair stands for a character, whatever follows. -/
theorem decode_code_cons {unit : Nat} (h : unit < 0xD800) (units : List StringUnit) :
    decode (.code unit :: units) = (decode units).map (Char.ofNat unit :: ·) := by
  have hhigh : isHigh unit = false := by simp [isHigh]; omega
  have hlow : isLow unit = false := by simp [isLow]; omega
  cases units with
  | nil => simp [decode, hhigh, hlow]
  | cons next rest => cases next <;> simp [decode, hhigh, hlow]

theorem decode_ofPrinted_cons (c : Char) (units : List StringUnit) :
    decode (ofPrinted c :: units) = (decode units).map (c :: ·) := by
  unfold ofPrinted
  split
  · rename_i hcontrol
    have hcode : c.toNat < 32 := hcontrol.1
    rw [decode_code_cons (by omega), Char.ofNat_toNat]
  · rfl

/-- The units of a printed string stand for the string. -/
theorem text?_map_ofPrinted (text : String) :
    text? (text.toList.map ofPrinted) = some text := by
  have hdecode (cs : List Char) : decode (cs.map ofPrinted) = some cs := by
    induction cs with
    | nil => rfl
    | cons c cs ih => rw [List.map_cons, decode_ofPrinted_cons, ih, Option.map_some]
  rw [text?, hdecode, Option.map_some, String.ofList_toList]

end StringUnit

namespace Lexeme

theorem codeUnit?_hexByte : ∀ n < 32,
    codeUnit? '0' '0' (Nat.digitChar (n / 16)) (Nat.digitChar (n % 16)) = some n := by
  decide +kernel

/-- A character that needs no escape is read as it stands. -/
theorem readString_cons_of_plain {c : Char} (hquote : c ≠ '"') (hbackslash : c ≠ '\\')
    (hplain : ¬c < ' ') (cs : List Char) :
    readString (c :: cs) = (readString cs).map fun r => (.char c :: r.1, r.2) := by
  rw [readString, if_neg hplain]
  · cases readString cs <;> rfl
  · exact hquote
  · exact fun _ _ _ _ _ h _ => hbackslash h
  · exact fun _ _ h _ => hbackslash h

/-- A letter behind a backslash stands for a character. -/
theorem readString_backslash_cons {c e : Char} (hletter : e ≠ 'u') (he : escaped? e = some c)
    (cs : List Char) :
    readString ('\\' :: e :: cs) = (readString cs).map fun r => (.char c :: r.1, r.2) := by
  rw [readString, he]
  · cases readString cs <;> rfl
  · exact fun _ _ _ _ _ h _ => hletter h

/-- A printed character is read as its unit, and the reading goes on behind it. -/
theorem readString_escape_append (c : Char) (cs : List Char) :
    readString ((Json.escape c).toList ++ cs) =
      (readString cs).map fun r => (.ofPrinted c :: r.1, r.2) := by
  unfold Json.escape
  split_ifs with h1 h2 h3 h4 h5 h6 h7 hlt
  · subst h1
    exact readString_backslash_cons (by decide) rfl cs
  · subst h2
    exact readString_backslash_cons (by decide) rfl cs
  · subst h3
    exact readString_backslash_cons (by decide) rfl cs
  · subst h4
    exact readString_backslash_cons (by decide) rfl cs
  · subst h5
    exact readString_backslash_cons (by decide) rfl cs
  · subst h6
    exact readString_backslash_cons (by decide) rfl cs
  · subst h7
    exact readString_backslash_cons (by decide) rfl cs
  · have hcode : c.toNat < 32 := hlt
    have hunit : StringUnit.ofPrinted c = .code c.toNat :=
      if_pos ⟨hlt, by simp [h3, h4, h5, h6, h7]⟩
    rw [hunit]
    have hchars : ("\\u00" ++ hexByte c.toNat).toList ++ cs = '\\' :: 'u' :: '0' :: '0' ::
        Nat.digitChar (c.toNat / 16) :: Nat.digitChar (c.toNat % 16) :: cs := by
      simp [hexByte]
    rw [hchars, readString, codeUnit?_hexByte c.toNat hcode]
    cases readString cs <;> rfl
  · have hunit : StringUnit.ofPrinted c = .char c := if_neg fun h => hlt h.1
    have hchars : c.toString.toList ++ cs = c :: cs := by simp [Char.toString]
    rw [hunit, hchars, readString_cons_of_plain h1 h2 hlt]

/-- A printed string is read up to its end. -/
theorem readString_flatMap_escape (text : List Char) (cs : List Char) :
    readString ((text.flatMap fun c => (Json.escape c).toList) ++ '"' :: cs) =
      some (text.map .ofPrinted, cs) := by
  induction text with
  | nil => rw [List.flatMap_nil, List.nil_append, readString, List.map_nil]
  | cons c text ih =>
      rw [List.flatMap_cons, List.append_assoc, readString_escape_append, ih, Option.map_some,
        List.map_cons]

theorem readAll_nil : readAll [] = some [] := by
  rw [readAll]
  rfl

/-- The lexemes of a text are the first one and those of what stands behind it. -/
theorem readAll_of_read {cs rest : List Char} {lexeme : Lexeme} (hgap : cs.dropWhile isGap = cs)
    (h : read cs = some (lexeme, rest)) : readAll cs = (readAll rest).map (lexeme :: ·) := by
  have hne : cs ≠ [] := by
    rintro rfl
    cases h
  rw [readAll, hgap, if_neg hne]
  split
  · simp_all
  · simp_all

/-- A printed string is a lexeme on its own. -/
theorem readAll_printString (text : String) :
    readAll (Json.printString text).toList = some [.string (text.toList.map .ofPrinted)] := by
  have hchars : (Json.printString text).toList =
      '"' :: ((text.toList.flatMap fun c => (Json.escape c).toList) ++ ['"']) := by
    simp [Json.printString, String.toList_join, List.flatMap, Function.comp_def]
  have hread : read (Json.printString text).toList =
      some (.string (text.toList.map .ofPrinted), []) := by
    rw [hchars, read, readString_flatMap_escape]
    rfl
  have hgap : (Json.printString text).toList.dropWhile isGap = (Json.printString text).toList := by
    rw [hchars]
    rfl
  rw [readAll_of_read hgap hread, readAll_nil, Option.map_some]

end Lexeme

/-- A printed string is read back. -/
theorem Json.read_printString (text : String) :
    Json.read (Json.printString text) = some (.string text) := by
  rw [Json.read, JsonOutline.read, Lexeme.readAll_printString, Option.bind_some,
    JsonOutline.readValue, JsonOutline.readAfter, Option.bind_some, JsonOutline.value?,
    StringUnit.text?_map_ofPrinted, Option.map_some]

end SpanRules
