import SpanRules.Attribute.Flag
import SpanRules.Text.Id

/-! # Token attributes -/

namespace SpanRules

/-- An attribute whose value is a text. -/
inductive TextAttribute
  | orth | lower | norm | baseForm | pos | tag | dep | entityType | shape | opening | ending
deriving DecidableEq, Repr

namespace TextAttribute

/-- Every text attribute in order. -/
def all : List TextAttribute :=
  [.orth, .lower, .norm, .baseForm, .pos, .tag, .dep, .entityType, .shape, .opening, .ending]

def name : TextAttribute → String
  | .orth => "ORTH"
  | .lower => "LOWER"
  | .norm => "NORM"
  | .baseForm => "LEMMA"
  | .pos => "POS"
  | .tag => "TAG"
  | .dep => "DEP"
  | .entityType => "ENT_TYPE"
  | .shape => "SHAPE"
  | .opening => "PREFIX"
  | .ending => "SUFFIX"

def rank : TextAttribute → Nat
  | .orth => 0
  | .lower => 1
  | .norm => 2
  | .baseForm => 3
  | .pos => 4
  | .tag => 5
  | .dep => 6
  | .entityType => 7
  | .shape => 8
  | .opening => 9
  | .ending => 10

@[simp] theorem mem_all (a : TextAttribute) : a ∈ all := by
  cases a <;> simp [all]

end TextAttribute

/-- A property of a token that rules may ask for. -/
inductive Attribute
  | text (a : TextAttribute)
  | length
  | flag (f : Flag)
deriving DecidableEq, Repr

/-- The type of the values of an attribute. -/
inductive AttributeKind
  | text | flag | number
deriving DecidableEq, Repr

namespace Attribute

/-- Every attribute in order. -/
def all : List Attribute :=
  TextAttribute.all.map .text ++ .length :: Flag.all.map .flag

def name : Attribute → String
  | .text a => a.name
  | .length => "LENGTH"
  | .flag f => f.name

def rank : Attribute → Nat
  | .text a => a.rank
  | .length => 11
  | .flag f => 12 + f.rank

def kind : Attribute → AttributeKind
  | .text _ => .text
  | .length => .number
  | .flag _ => .flag

/-- Equal up to the case of ASCII letters. -/
def sameName (a b : String) : Bool :=
  a.toList.map Char.toLower == b.toList.map Char.toLower

/-- The attribute of a name, in any case. -/
def ofName? (name : String) : Option Attribute :=
  all.find? fun a => sameName a.name name

@[simp] theorem mem_all (a : Attribute) : a ∈ all := by
  cases a <;> simp [all]

theorem rank_injective {a b : Attribute} (h : a.rank = b.rank) : a = b := by
  cases a with
  | text a => cases b with
    | text b => cases a <;> cases b <;> first | rfl | simp [rank, TextAttribute.rank] at h
    | length => cases a <;> simp [rank, TextAttribute.rank] at h
    | flag b => cases a <;> simp [rank, TextAttribute.rank] at h <;> omega
  | length => cases b with
    | text b => cases b <;> simp [rank, TextAttribute.rank] at h
    | length => rfl
    | flag b => simp [rank] at h; omega
  | flag a => cases b with
    | text b => cases b <;> simp [rank, TextAttribute.rank] at h <;> omega
    | length => simp [rank] at h; omega
    | flag b => cases a <;> cases b <;> first | rfl | simp [rank, Flag.rank] at h

end Attribute

/-- The value of an attribute of a token. -/
inductive AttributeValue
  | text (id : TextId)
  | flag (value : Bool)
  | number (value : Int)
deriving DecidableEq, Repr

def AttributeValue.textId? : AttributeValue → Option TextId
  | .text id => some id
  | _ => none

/-- A sequence of tokens as rules see it: its length and the attributes of each token. -/
structure TokenView where
  size : Nat
  attr : Nat → Attribute → AttributeValue

end SpanRules
