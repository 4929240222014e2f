import SpanRules.Attribute.Basic
import SpanRules.Json.Printer

/-! # Faults

What can go wrong when rules are entered, looked up or run, as causes; the wording of each
stands in one place.
-/

namespace SpanRules

/-- What is wrong with a pattern or a phrase. -/
inductive Defect
  /-- A token description is not an object. -/
  | notAnObject (got : Json)
  /-- The operator is not one of the markers. -/
  | unknownOperator (got : Json)
  /-- The value of a name is null, an array or an object. -/
  | notAScalar (name : String) (got : Json)
  /-- A number attribute is compared with a number that is no integer of 64 bits. -/
  | notAnInteger (attr : Attribute) (got : JsonNumber)
  /-- An attribute is compared with a value of another kind. -/
  | wrongKind (attr : Attribute) (got : Json)
  /-- A pattern is not an array. -/
  | notAnArray (got : Json)
  /-- A pattern has no token descriptions. -/
  | emptyPattern
  /-- A key is entered without patterns. -/
  | noPatterns (key : String)
  /-- Phrases are to be compared by an attribute whose values are no texts. -/
  | notATextAttribute (attr : Attribute)
  /-- A phrase has no tokens. -/
  | emptyPhrase
  /-- A token of a phrase has a value that is no text. -/
  | notAText (index : Nat) (attr : TextAttribute)
  /-- A key is entered without phrases. -/
  | noPhrases (key : String)

/-- Why an operation was refused or given up. -/
inductive Fault
  | invalidPattern (defect : Defect)
  | unknownAttribute (name : String)
  | notFound (key : String)
  /-- A handler failed at the match of this index, for a reason of its own. -/
  | callback (key : String) (index : Nat) (source : String)

/-- The word for a kind of values. -/
def AttributeKind.word : AttributeKind → String
  | .text => "Text"
  | .flag => "Flag"
  | .number => "Int"

/-- A defect in words. -/
def Defect.reason : Defect → String
  | .notAnObject got => "token description must be an object, got " ++ got.print
  | .unknownOperator got => "unrecognized operator " ++ got.print
  | .notAScalar name got => "value for '" ++ name ++ "' must be a scalar, got " ++ got.print
  | .notAnInteger attr got => attr.name ++ " expects an integer, got " ++ got.print
  | .wrongKind attr got =>
    attr.name ++ " expects a " ++ attr.kind.word ++ " value, got " ++ got.print
  | .notAnArray got => "pattern must be an array of token descriptions, got " ++ got.print
  | .emptyPattern => "pattern has no token descriptions"
  | .noPatterns key => "no patterns given for '" ++ key ++ "'"
  | .notATextAttribute attr =>
    "phrase matching needs a text attribute, got " ++ attr.name
  | .emptyPhrase => "phrase has no tokens"
  | .notAText index attr =>
    "token " ++ printInt index ++ " has no text value for " ++ attr.name
  | .noPhrases key => "no phrases given for '" ++ key ++ "'"

/-- A fault in words. -/
def Fault.message : Fault → String
  | .invalidPattern defect => "invalid pattern: " ++ defect.reason
  | .unknownAttribute name => "unknown token attribute '" ++ name ++ "'"
  | .notFound key => "no rule registered under key '" ++ key ++ "'"
  | .callback key index _ => "callback for '" ++ key ++ "' failed at match " ++ printInt index

end SpanRules
