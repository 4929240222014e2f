import SpanRules.Json.Reader

/-! # Rule files

A rule file is an object with the fields `patterns` and `phrases`, both of which may be missing,
or an array of their values in this order. Other fields have to be grammatical and are passed
over.
-/

namespace SpanRules

/-- The patterns and the phrases of a rule file, each by key in increasing order. -/
structure RuleFile where
  patterns : List (String × List Json) := []
  phrases : List (String × List String) := []

namespace RuleFile

/-- The results of all, or nothing. -/
def gather {α β : Type} (f : α → Option β) : List α → Option (List β)
  | [] => some []
  | a :: rest => do return (← f a) :: (← gather f rest)

/-- Reads an object whose values are arrays, with a reader for the items. -/
def readLists {β : Type} (item : JsonOutline → Option β) :
    JsonOutline → Option (List (String × List β))
  | .object members =>
    (gather (fun m => do
      let key ← StringUnit.text? m.1
      match m.2 with
      | .array items => return (key, ← gather item items)
      | _ => none) members).map byKey
  | _ => none

/-- How many arrays and objects stand around the tokens of a pattern. -/
def patternDepth : Nat :=
  3

/-- Reads the patterns of every key. -/
def readPatterns : JsonOutline → Option (List (String × List Json)) :=
  readLists (JsonOutline.value? (Json.depthLimit - patternDepth))

/-- Reads the phrases of every key. -/
def readPhrases : JsonOutline → Option (List (String × List String)) :=
  readLists fun
    | .string units => StringUnit.text? units
    | _ => none

/-- Reads the fields of an object. Each may stand once. -/
def readFields (patterns : Option (List (String × List Json)))
    (phrases : Option (List (String × List String))) :
    List (List StringUnit × JsonOutline) → Option RuleFile
  | [] => some ⟨patterns.getD [], phrases.getD []⟩
  | (units, value) :: rest => do
    let name ← StringUnit.text? units
    if name = "patterns" then
      if patterns.isSome then none else readFields (some (← readPatterns value)) phrases rest
    else if name = "phrases" then
      if phrases.isSome then none else readFields patterns (some (← readPhrases value)) rest
    else readFields patterns phrases rest

/-- Reads a rule file from its outline. -/
def ofOutline : JsonOutline → Option RuleFile
  | .object members => readFields none none members
  | .array [] => some {}
  | .array [patterns] => do return { patterns := ← readPatterns patterns }
  | .array [patterns, phrases] =>
    do return ⟨← readPatterns patterns, ← readPhrases phrases⟩
  | _ => none

/-- Reads a rule file. -/
def read (text : String) : Option RuleFile :=
  (JsonOutline.read text).bind ofOutline

end RuleFile

end SpanRules
