import SpanRules.Unicode.Alphabetic
import SpanRules.Unicode.Lowercase
import SpanRules.Unicode.Uppercase

/-! # Shapes of words -/

namespace SpanRules

/-- The symbol that stands for a character in a shape: `X` for upper case, `x` for any other
letter, `d` for a digit, and every other character for itself. -/
def shapeSymbol (c : Char) : Char :=
  if Unicode.isUppercase c then 'X'
  else if Unicode.isLowercase c || Unicode.isAlphabetic c then 'x'
  else if c.isDigit then 'd'
  else c

/-- How many equal symbols a shape keeps in a row. -/
def shapeRunLimit : Nat :=
  4

/-- The shape of the characters after a run of `count` symbols `last`. -/
def shapeAfter (last : Option Char) (count : Nat) : List Char → List Char
  | [] => []
  | c :: cs =>
    let symbol := shapeSymbol c
    let count := if some symbol = last then count + 1 else 1
    if count ≤ shapeRunLimit then symbol :: shapeAfter (some symbol) count cs
    else shapeAfter (some symbol) count cs

/-- The shape of a word: the symbols of its characters, with long runs cut. -/
def shapeOf (word : List Char) : List Char :=
  shapeAfter none 0 word

end SpanRules
