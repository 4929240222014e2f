import SpanRules.Json.Lexeme

/-! # Outlines of JSON texts

The outline of a text is its shape with strings and numbers as they are written. A text has an
outline exactly when it is grammatical, however deep it is nested and whatever its escapes and
exponents say.
-/

namespace SpanRules

/-- The shape of a JSON text. -/
inductive JsonOutline
  | null
  | bool (value : Bool)
  | number (text : NumberText)
  | string (units : List StringUnit)
  | array (items : List JsonOutline)
  | object (members : List (List StringUnit × JsonOutline))

namespace JsonOutline

/-- An array or object that is still open, with its parts so far, the newest first. -/
inductive Frame
  | array (items : List JsonOutline)
  | object (members : List (List StringUnit × JsonOutline)) (key : List StringUnit)

mutual

/-- Reads a value inside the open frames, the innermost first. -/
def readValue (frames : List Frame) : List Lexeme → Option JsonOutline
  | .null :: rest => readAfter null frames rest
  | .bool value :: rest => readAfter (bool value) frames rest
  | .number text :: rest => readAfter (number text) frames rest
  | .string units :: rest => readAfter (string units) frames rest
  | .openBracket :: .closeBracket :: rest => readAfter (array []) frames rest
  | .openBracket :: rest => readValue (.array [] :: frames) rest
  | .openBrace :: .closeBrace :: rest => readAfter (object []) frames rest
  | .openBrace :: .string key :: .colon :: rest => readValue (.object [] key :: frames) rest
  | _ => none

/-- Goes on after a complete value inside the open frames. -/
def readAfter (value : JsonOutline) : List Frame → List Lexeme → Option JsonOutline
  | [], [] => some value
  | .array items :: frames, .comma :: rest => readValue (.array (value :: items) :: frames) rest
  | .array items :: frames, .closeBracket :: rest =>
    readAfter (array (value :: items).reverse) frames rest
  | .object members key :: frames, .comma :: .string next :: .colon :: rest =>
    readValue (.object ((key, value) :: members) next :: frames) rest
  | .object members key :: frames, .closeBrace :: rest =>
    readAfter (object ((key, value) :: members).reverse) frames rest
  | _, _ => none

end

/-- The outline of a text. -/
def read (text : String) : Option JsonOutline :=
  (Lexeme.readAll text.toList).bind (readValue [])

end JsonOutline

end SpanRules
