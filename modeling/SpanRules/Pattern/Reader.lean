import SpanRules.Fault
import SpanRules.Order
import SpanRules.Pattern.Basic

/-! # Reading patterns

A slot is written as an object: the key `OP` names the quantifier, every other key an attribute
and the value it must have. The entries are examined in order, and the first bad one is the
fault.
-/

namespace SpanRules

/-- What becomes of a name that is no attribute. -/
inductive UnknownPolicy
  /-- The pattern is refused. -/
  | refuse
  /-- The condition holds nowhere. -/
  | ignore
deriving DecidableEq, Repr

/-- An entry of a token description. -/
inductive Entry
  | quantifier (q : Quantifier)
  | check (attr : Attribute) (value : AttributeValue)
  | unknown
deriving DecidableEq, Repr

/-- The key of the quantifier. -/
def quantifierKey : String :=
  "OP"

/-- Neither null nor an array nor an object. -/
def Json.isScalar : Json → Bool
  | .null | .array _ | .object _ => false
  | _ => true

/-- An integer of 64 bits with a sign. -/
def fitsWord (n : Int) : Bool :=
  -9223372036854775808 ≤ n && n ≤ 9223372036854775807

variable [Hashing]

/-- The value that an attribute must have. -/
def AttributeValue.ofJson (attr : Attribute) (value : Json) : Except Defect AttributeValue :=
  match attr.kind, value with
  | .text, .string s => .ok (.text (TextId.of s))
  | .flag, .bool b => .ok (.flag b)
  | .number, .number (.integer n) =>
    if fitsWord n then .ok (.number n) else .error (.notAnInteger attr (.integer n))
  | .number, .number (.float x) => .error (.notAnInteger attr (.float x))
  | _, value => .error (.wrongKind attr value)

/-- The quantifier that a value names. -/
def Quantifier.ofJson : Json → Except Defect Quantifier
  | .string marker =>
    match Quantifier.ofMarker? marker with
    | some q => .ok q
    | none => .error (.unknownOperator (.string marker))
  | value => .error (.unknownOperator value)

/-- Reads one entry of a token description. -/
def Entry.ofMember (policy : UnknownPolicy) (name : String) (value : Json) : Except Fault Entry :=
  if name = quantifierKey then
    match Quantifier.ofJson value with
    | .ok q => .ok (.quantifier q)
    | .error defect => .error (.invalidPattern defect)
  else if !value.isScalar then .error (.invalidPattern (.notAScalar name value))
  else match Attribute.ofName? name with
    | some attr =>
      match AttributeValue.ofJson attr value with
      | .ok value => .ok (.check attr value)
      | .error defect => .error (.invalidPattern defect)
    | none =>
      match policy with
      | .refuse => .error (.unknownAttribute name)
      | .ignore => .ok .unknown

/-- The results of all, or the first fault. -/
def collect {α β ε : Type} (f : α → Except ε β) : List α → Except ε (List β)
  | [] => .ok []
  | a :: rest =>
    match f a with
    | .error e => .error e
    | .ok b => match collect f rest with
      | .error e => .error e
      | .ok bs => .ok (b :: bs)

namespace Slot

/-- The quantifier among the entries; without one it is exactly one token. -/
def quantifierOf (entries : List Entry) : Quantifier :=
  (entries.findSome? fun | .quantifier q => some q | _ => none).getD .one

/-- The checks among the entries, in order. -/
def checksOf (entries : List Entry) : List (Attribute × AttributeValue) :=
  entries.filterMap fun | .check attr value => some (attr, value) | _ => none

/-- Checks in the order of their attributes; those of one attribute stay in order. -/
def sortChecks (checks : List (Attribute × AttributeValue)) : List (Attribute × AttributeValue) :=
  sortBy (fun a b => a.1.rank ≤ b.1.rank) checks

/-- The slot of entries. -/
def ofEntries (entries : List Entry) : Slot where
  condition := ⟨sortChecks (checksOf entries), entries.contains .unknown⟩
  quantifier := quantifierOf entries

/-- Reads a token description. -/
def ofJson (policy : UnknownPolicy) : Json → Except Fault Slot
  | .object members =>
    match collect (fun m => Entry.ofMember policy m.1 m.2) members with
    | .ok entries => .ok (ofEntries entries)
    | .error fault => .error fault
  | value => .error (.invalidPattern (.notAnObject value))

end Slot

/-- Reads a pattern: an array of token descriptions. -/
def Pattern.ofJson (policy : UnknownPolicy) : Json → Except Fault Pattern
  | .array items =>
    match collect (Slot.ofJson policy) items with
    | .error fault => .error fault
    | .ok slots => match Pattern.ofSlots? slots with
      | some pattern => .ok pattern
      | none => .error (.invalidPattern .emptyPattern)
  | value => .error (.invalidPattern (.notAnArray value))

end SpanRules
