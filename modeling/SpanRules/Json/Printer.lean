import SpanRules.Decimal.Shortest
import SpanRules.Json.Value

/-! # Printing JSON values -/

namespace SpanRules

/-- Where plain notation ends: numbers from `10 ^ low` to below `10 ^ (high + 1)` are written
without an exponent. -/
structure PlainRange where
  low : Int
  high : Int

/-- Doubles in JSON texts are written plainly from 0.00001 to below 10000000000000000. -/
def Json.plainRange : PlainRange :=
  ⟨-5, 15⟩

/-- Zeros in a row. -/
def zeros (count : Int) : String :=
  String.ofList (List.replicate count.toNat '0')

/-- A decimal in plain notation, always with digits after the point. -/
def Decimal.plain (d : Decimal) : String :=
  let digits := Nat.toDigits 10 d.digits
  let point := (digits.length : Int) + d.exponent
  if 0 ≤ d.exponent then String.ofList digits ++ zeros d.exponent ++ ".0"
  else if point ≤ 0 then "0." ++ zeros (-point) ++ String.ofList digits
  else
    String.ofList (digits.take point.toNat) ++ "." ++ String.ofList (digits.drop point.toNat)

/-- A decimal with one digit before the point and a signed exponent. -/
def Decimal.scientific (d : Decimal) : String :=
  let digits := Nat.toDigits 10 d.digits
  let exponent := (digits.length : Int) - 1 + d.exponent
  let tail := digits.drop 1
  String.ofList (digits.take 1) ++ (if tail.isEmpty then "" else "." ++ String.ofList tail) ++
    (if 0 ≤ exponent then "e+" else "e-") ++ String.ofList (Nat.toDigits 10 exponent.natAbs)

/-- A decimal, plain inside the range and scientific outside. -/
def Decimal.print (range : PlainRange) (d : Decimal) : String :=
  let exponent := ((Nat.toDigits 10 d.digits).length : Int) - 1 + d.exponent
  if range.low ≤ exponent ∧ exponent ≤ range.high then d.plain else d.scientific

/-- An integer in decimal digits. -/
def printInt (n : Int) : String :=
  (if n < 0 then "-" else "") ++ String.ofList (Nat.toDigits 10 n.natAbs)

/-- The sign bit of a double is set. -/
def isNegative (x : Float) : Bool :=
  signBit ≤ x.toBits.toNat

/-- A number: an integer by its digits, a double by the shortest ones that read back. -/
def JsonNumber.print : JsonNumber → String
  | .integer value => printInt value
  | .float value =>
    (if isNegative value then "-" else "") ++
      (shortestDecimal value).print Json.plainRange

/-- Two lower-case hexadecimal digits. -/
def hexByte (n : Nat) : String :=
  String.ofList [Nat.digitChar (n / 16), Nat.digitChar (n % 16)]

/-- A character inside a JSON string. -/
def Json.escape (c : Char) : String :=
  if c = '"' then "\\\""
  else if c = '\\' then "\\\\"
  else if c = '\x08' then "\\b"
  else if c = '\x0c' then "\\f"
  else if c = '\n' then "\\n"
  else if c = '\r' then "\\r"
  else if c = '\t' then "\\t"
  else if c < ' ' then "\\u00" ++ hexByte c.toNat
  else c.toString

/-- A text as a JSON string. -/
def Json.printString (text : String) : String :=
  "\"" ++ String.join (text.toList.map Json.escape) ++ "\""

mutual

/-- A value without spaces. -/
def Json.print : Json → String
  | .null => "null"
  | .bool true => "true"
  | .bool false => "false"
  | .number value => value.print
  | .string value => Json.printString value
  | .array items => "[" ++ ",".intercalate (Json.printItems items) ++ "]"
  | .object members => "\x7b" ++ ",".intercalate (Json.printMembers members) ++ "\x7d"

/-- The texts of the items of an array. -/
def Json.printItems : List Json → List String
  | [] => []
  | item :: rest => item.print :: Json.printItems rest

/-- The texts of the members of an object. -/
def Json.printMembers : List (String × Json) → List String
  | [] => []
  | (key, value) :: rest =>
    (Json.printString key ++ ":" ++ value.print) :: Json.printMembers rest

end

end SpanRules
