import SpanRules.Json.Number

/-! # Lexemes of JSON texts -/

namespace SpanRules

/-- A unit of a string as written: a character, or a code unit given by four digits. -/
inductive StringUnit
  | char (c : Char)
  | code (unit : Nat)

/-- A lexeme of a JSON text. -/
inductive Lexeme
  | openBrace | closeBrace | openBracket | closeBracket | colon | comma
  | null
  | bool (value : Bool)
  | number (text : NumberText)
  | string (units : List StringUnit)

namespace Lexeme

/-- The white space of JSON texts. -/
def isGap (c : Char) : Bool :=
  c = ' ' || c = '\n' || c = '\t' || c = '\r'

/-- The value of a hexadecimal digit. -/
def hexDigit? (c : Char) : Option Nat :=
  if '0' ≤ c ∧ c ≤ '9' then some (c.toNat - '0'.toNat)
  else if 'a' ≤ c ∧ c ≤ 'f' then some (c.toNat - 'a'.toNat + 10)
  else if 'A' ≤ c ∧ c ≤ 'F' then some (c.toNat - 'A'.toNat + 10)
  else none

/-- The code unit of four hexadecimal digits. -/
def codeUnit? (a b c d : Char) : Option Nat := do
  return (((← hexDigit? a) * 16 + (← hexDigit? b)) * 16 + (← hexDigit? c)) * 16 + (← hexDigit? d)

/-- The character that stands after a backslash for another one. -/
def escaped? : Char → Option Char
  | '"' => some '"'
  | '\\' => some '\\'
  | '/' => some '/'
  | 'b' => some '\x08'
  | 'f' => some '\x0c'
  | 'n' => some '\n'
  | 'r' => some '\r'
  | 't' => some '\t'
  | _ => none

/-- Reads the units of a string up to its closing quote. -/
def readString : List Char → Option (List StringUnit × List Char)
  | [] => none
  | '"' :: rest => some ([], rest)
  | '\\' :: 'u' :: a :: b :: c :: d :: rest =>
    match codeUnit? a b c d, readString rest with
    | some unit, some (units, rest) => some (.code unit :: units, rest)
    | _, _ => none
  | '\\' :: e :: rest =>
    match escaped? e, readString rest with
    | some c, some (units, rest) => some (.char c :: units, rest)
    | _, _ => none
  | c :: rest =>
    if c < ' ' then none
    else match readString rest with
      | some (units, rest) => some (.char c :: units, rest)
      | none => none

/-- Reads decimal digits. -/
def readDigits (cs : List Char) : List Nat × List Char :=
  ((cs.takeWhile Char.isDigit).map (·.toNat - '0'.toNat), cs.dropWhile Char.isDigit)

/-- Reads decimal digits, at least one. -/
def readDigits? (cs : List Char) : Option (List Nat × List Char) :=
  if cs.head?.any Char.isDigit then some (readDigits cs) else none

/-- Reads the digits after a point, if one stands here. -/
def readFraction : List Char → Option (List Nat × List Char)
  | '.' :: cs => readDigits? cs
  | cs => some ([], cs)

/-- Reads the sign of an exponent and tells whether it is a minus. -/
def readSign : List Char → Bool × List Char
  | '-' :: cs => (true, cs)
  | '+' :: cs => (false, cs)
  | cs => (false, cs)

/-- Reads an exponent, if one stands here. -/
def readExponent (cs : List Char) : Option (Option (Bool × List Nat) × List Char) :=
  match cs with
  | [] => some (none, [])
  | c :: rest =>
    if c = 'e' ∨ c = 'E' then
      (readDigits? (readSign rest).2).map fun r => (some ((readSign rest).1, r.1), r.2)
    else some (none, c :: rest)

/-- Reads a number after its sign. A zero in front stands alone. -/
def readNumber (negative : Bool) (cs : List Char) : Option (NumberText × List Char) :=
  match readDigits? cs with
  | none => none
  | some (whole, rest) =>
    if whole.head? = some 0 ∧ 1 < whole.length then none
    else match readFraction rest with
      | none => none
      | some (fraction, rest) =>
        (readExponent rest).map fun r => (⟨negative, whole, fraction, r.1⟩, r.2)

/-- Reads the lexeme at the start of a text. -/
def read : List Char → Option (Lexeme × List Char)
  | '\x7b' :: rest => some (openBrace, rest)
  | '\x7d' :: rest => some (closeBrace, rest)
  | '[' :: rest => some (openBracket, rest)
  | ']' :: rest => some (closeBracket, rest)
  | ':' :: rest => some (colon, rest)
  | ',' :: rest => some (comma, rest)
  | 'n' :: 'u' :: 'l' :: 'l' :: rest => some (null, rest)
  | 't' :: 'r' :: 'u' :: 'e' :: rest => some (bool true, rest)
  | 'f' :: 'a' :: 'l' :: 's' :: 'e' :: rest => some (bool false, rest)
  | '"' :: rest => (readString rest).map fun r => (string r.1, r.2)
  | '-' :: rest => (readNumber true rest).map fun r => (number r.1, r.2)
  | cs => (readNumber false cs).map fun r => (number r.1, r.2)

theorem length_readString {cs rest : List Char} {units : List StringUnit}
    (h : readString cs = some (units, rest)) : rest.length < cs.length := by
  fun_induction readString cs generalizing units rest <;> simp_all <;> grind

theorem length_readDigits? {cs rest : List Char} {digits : List Nat}
    (h : readDigits? cs = some (digits, rest)) : rest.length < cs.length := by
  unfold readDigits? at h
  split at h
  · rename_i hc
    obtain rfl : (readDigits cs).2 = rest := by simp_all
    cases cs with
    | nil => simp at hc
    | cons c cs =>
      have := (List.dropWhile_sublist (l := cs) Char.isDigit).length_le
      have hc : c.isDigit = true := by simpa using hc
      simp only [readDigits, List.dropWhile_cons, hc, if_true, List.length_cons]
      omega
  · cases h

theorem length_readFraction {cs rest : List Char} {digits : List Nat}
    (h : readFraction cs = some (digits, rest)) : rest.length ≤ cs.length := by
  unfold readFraction at h
  split at h
  · have := length_readDigits? h
    rw [List.length_cons]
    omega
  · simp_all

theorem length_readSign (cs : List Char) : (readSign cs).2.length ≤ cs.length := by
  unfold readSign
  split <;> simp

theorem length_readExponent {cs rest : List Char} {exponent : Option (Bool × List Nat)}
    (h : readExponent cs = some (exponent, rest)) : rest.length ≤ cs.length := by
  unfold readExponent at h
  split at h
  · simp_all
  · rename_i c cs
    split at h
    · obtain ⟨r, hr, heq⟩ := Option.map_eq_some_iff.1 h
      have h1 := length_readDigits? hr
      have h2 := length_readSign cs
      simp only [Prod.mk.injEq] at heq
      rw [← heq.2, List.length_cons]
      omega
    · simp_all

theorem length_readNumber {negative : Bool} {cs rest : List Char} {text : NumberText}
    (h : readNumber negative cs = some (text, rest)) : rest.length < cs.length := by
  unfold readNumber at h
  split at h
  · cases h
  · rename_i whole r1 hw
    have h1 := length_readDigits? hw
    split at h
    · cases h
    · split at h
      · cases h
      · rename_i fraction r2 hf
        have h2 := length_readFraction hf
        obtain ⟨r, hr, heq⟩ := Option.map_eq_some_iff.1 h
        have h3 := length_readExponent hr
        simp only [Prod.mk.injEq] at heq
        rw [← heq.2]
        omega

theorem length_read {cs rest : List Char} {lexeme : Lexeme}
    (h : read cs = some (lexeme, rest)) : rest.length < cs.length := by
  unfold read at h
  split at h
  case h_10 =>
    obtain ⟨r, hr, heq⟩ := Option.map_eq_some_iff.1 h
    have := length_readString hr
    simp only [Prod.mk.injEq] at heq
    rw [← heq.2, List.length_cons]
    omega
  case h_11 =>
    obtain ⟨r, hr, heq⟩ := Option.map_eq_some_iff.1 h
    have := length_readNumber hr
    simp only [Prod.mk.injEq] at heq
    rw [← heq.2, List.length_cons]
    omega
  case h_12 =>
    obtain ⟨r, hr, heq⟩ := Option.map_eq_some_iff.1 h
    simp only [Prod.mk.injEq] at heq
    rw [← heq.2]
    exact length_readNumber hr
  all_goals
    simp only [Option.some.injEq, Prod.mk.injEq] at h
    simp only [← h.2, List.length_cons]
    omega

/-- The lexemes of a text, with gaps between them. -/
def readAll (cs : List Char) : Option (List Lexeme) :=
  if cs.dropWhile isGap = [] then some []
  else match _h : read (cs.dropWhile isGap) with
    | none => none
    | some (lexeme, rest) => (readAll rest).map (lexeme :: ·)
termination_by cs.length
decreasing_by
  have := length_read _h
  have := (List.dropWhile_sublist (l := cs) isGap).length_le
  omega

end Lexeme

end SpanRules
