import SpanRules.Json.Outline

/-! # Reading JSON values -/

namespace SpanRules

namespace StringUnit

/-- The first half of a pair of code units. -/
def isHigh (unit : Nat) : Bool :=
  0xD800 ≤ unit && unit < 0xDC00

/-- The second half of a pair of code units. -/
def isLow (unit : Nat) : Bool :=
  0xDC00 ≤ unit && unit < 0xE000

/-- The characters of a string as written. A half without its partner stands for nothing. -/
def decode : List StringUnit → Option (List Char)
  | [] => some []
  | .char c :: rest => (decode rest).map (c :: ·)
  | .code high :: .code low :: rest =>
    if isHigh high then
      if isLow low then
        let point := 0x10000 + (high - 0xD800) * 0x400 + (low - 0xDC00)
        (decode rest).map (Char.ofNat point :: ·)
      else none
    else if isLow high then none
    else (decode (.code low :: rest)).map (Char.ofNat high :: ·)
  | .code unit :: rest =>
    if isHigh unit || isLow unit then none else (decode rest).map (Char.ofNat unit :: ·)

/-- The text of a string as written. -/
def text? (units : List StringUnit) : Option String :=
  (decode units).map String.ofList

end StringUnit

namespace JsonOutline

mutual

/-- The value of an outline in which at most `depth` arrays and objects stand inside each other.
The members of an object are put in order, and of those with one key the last counts. -/
def value? (depth : Nat) : JsonOutline → Option Json
  | null => some .null
  | bool value => some (.bool value)
  | number text => text.value?.map .number
  | string units => (StringUnit.text? units).map .string
  | array items => if depth = 0 then none else (values? (depth - 1) items).map .array
  | object members =>
    if depth = 0 then none
    else (members? (depth - 1) members).map fun ms => .object (byKey ms)

/-- The values of the items of an array. -/
def values? (depth : Nat) : List JsonOutline → Option (List Json)
  | [] => some []
  | item :: rest => do return (← value? depth item) :: (← values? depth rest)

/-- The members of an object as they stand. -/
def members? (depth : Nat) : List (List StringUnit × JsonOutline) → Option (List (String × Json))
  | [] => some []
  | (key, item) :: rest => do
    let name ← StringUnit.text? key
    let value ← value? depth item
    return (name, value) :: (← members? depth rest)

end

end JsonOutline

/-- How many arrays and objects may stand inside each other. -/
def Json.depthLimit : Nat :=
  127

/-- The value of a JSON text. -/
def Json.read (text : String) : Option Json :=
  (JsonOutline.read text).bind (JsonOutline.value? Json.depthLimit)

end SpanRules
