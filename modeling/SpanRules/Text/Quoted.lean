import SpanRules.Unicode.Printable

/-! # Quoted texts -/

namespace SpanRules

/-- A character by its code point, between braces. -/
def codePointEscape (c : Char) : String :=
  "\\u\x7b" ++ String.ofList (Nat.toDigits 16 c.toNat) ++ "\x7d"

/-- How a character is shown between quotes: quotes and backslashes are escaped, and so is
what has no visible form or would attach to its neighbour. -/
def quotedChar (c : Char) : String :=
  if c = '\x00' then "\\0"
  else if c = '\t' then "\\t"
  else if c = '\r' then "\\r"
  else if c = '\n' then "\\n"
  else if c = '"' then "\\\""
  else if c = '\\' then "\\\\"
  else if Unicode.extendsGrapheme c || Unicode.isUnprintable c then codePointEscape c
  else c.toString

/-- A text between quotes. -/
def quoted (text : String) : String :=
  "\"" ++ String.join (text.toList.map quotedChar) ++ "\""

end SpanRules
