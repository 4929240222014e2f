import SpanRules.Attribute.Basic

/-! # Patterns

A pattern is a sequence of slots. A slot has a condition on one token and a quantifier that
says how many tokens it takes.
-/

namespace SpanRules

/-- How many tokens a slot takes, and whether its condition has to hold on them. -/
inductive Quantifier
  /-- One token on which the condition holds. -/
  | one
  /-- At most one token, on which the condition holds. -/
  | optional
  /-- One or more tokens, on each of which the condition holds. -/
  | oneOrMore
  /-- Any number of tokens, on each of which the condition holds. -/
  | zeroOrMore
  /-- One token on which the condition does not hold. -/
  | negated
deriving DecidableEq, Repr

namespace Quantifier

def all : List Quantifier :=
  [.one, .optional, .oneOrMore, .zeroOrMore, .negated]

/-- The marker of a quantifier in rules. -/
def marker : Quantifier → String
  | .one => "1"
  | .optional => "?"
  | .oneOrMore => "+"
  | .zeroOrMore => "*"
  | .negated => "!"

/-- The quantifier of a marker. -/
def ofMarker? (marker : String) : Option Quantifier :=
  all.find? (·.marker = marker)

/-- Every way through the slot takes a token on which the condition holds. -/
def requiresMatch : Quantifier → Bool
  | .one => true
  | .oneOrMore => true
  | _ => false

theorem ofMarker?_marker (q : Quantifier) : ofMarker? q.marker = some q := by
  cases q <;> decide

end Quantifier

/-- Values that attributes of a token must have, all of them. -/
structure Condition where
  checks : List (Attribute × AttributeValue)
  /-- The condition names an attribute that no token has, and holds nowhere. -/
  impossible : Bool := false
deriving DecidableEq, Repr

namespace Condition

/-- The condition holds on every token. -/
def isAny (c : Condition) : Bool :=
  c.checks.isEmpty && !c.impossible

/-- The condition holds on the token of this index. -/
def holds (c : Condition) (view : TokenView) (index : Nat) : Bool :=
  !c.impossible && c.checks.all fun check => view.attr index check.1 = check.2

/-- The texts that a token must have for the condition to hold. -/
def literals (c : Condition) : List (Attribute × TextId) :=
  c.checks.filterMap fun check => check.2.textId?.map (check.1, ·)

end Condition

/-- A place in a pattern. -/
structure Slot where
  condition : Condition
  quantifier : Quantifier
deriving DecidableEq, Repr

/-- A sequence of slots, at least one. -/
structure Pattern where
  slots : List Slot
  nonempty : slots ≠ []
deriving DecidableEq, Repr

namespace Pattern

/-- The pattern of a sequence of slots, if there are any. -/
def ofSlots? (slots : List Slot) : Option Pattern :=
  if h : slots = [] then none else some ⟨slots, h⟩

def size (p : Pattern) : Nat :=
  p.slots.length

end Pattern

end SpanRules
