import SpanRules.Order
import SpanRules.Pattern.Basic

/-! # The automaton of a list of rules

Every pattern becomes a branch, and all branches share one arena of states. A branch is laid out
from its end: the accepting state comes first, and every slot is put in front of the state in
which the rest of the pattern starts.
-/

namespace SpanRules

/-- A state of the arena. Links and conditions are positions. -/
inductive State
  /-- Takes one token on which the condition holds, or, when negated, does not hold. -/
  | consume (condition : Nat) (negated : Bool) (next : Nat)
  /-- Goes on in two states without taking a token. -/
  | split (first second : Nat)
  /-- A pattern of a rule has been matched. -/
  | accept (rule pattern : Nat)
deriving DecidableEq, Repr

/-- One pattern in the arena. -/
structure Branch where
  /-- The state in which the pattern starts. -/
  entry : Nat
  rule : Nat
  pattern : Nat
  /-- Texts each of which some token of every match has. -/
  required : List (Attribute × TextId)
deriving DecidableEq, Repr

/-- The patterns of a list of rules in one arena. -/
structure Automaton where
  states : Array State := #[]
  conditions : Array Condition := #[]
  branches : List Branch := []
  keys : List TextId := []
deriving DecidableEq, Repr

/-- Attributes in order, and texts of one attribute by their codes. -/
def literalLE (a b : Attribute × TextId) : Bool :=
  a.1.rank < b.1.rank || (a.1.rank = b.1.rank && a.2.code ≤ b.2.code)

/-- The texts that every match of a pattern needs, in order and each once. -/
def Pattern.required (p : Pattern) : List (Attribute × TextId) :=
  let needed := (p.slots.filter (·.quantifier.requiresMatch)).flatMap (·.condition.literals)
  sortBy literalLE needed.eraseDups

namespace Automaton

def push (a : Automaton) (state : State) : Automaton :=
  { a with states := a.states.push state }

/-- Puts a slot in front of the state `next` and tells the state in which it starts. -/
def pushSlot (a : Automaton) (slot : Slot) (next : Nat) : Automaton × Nat :=
  let condition := a.conditions.size
  let a := { a with conditions := a.conditions.push slot.condition }
  let here := a.states.size
  match slot.quantifier with
  | .one => (a.push (.consume condition false next), here)
  | .negated => (a.push (.consume condition true next), here)
  | .optional => ((a.push (.consume condition false next)).push (.split here next), here + 1)
  | .oneOrMore =>
    ((a.push (.consume condition false (here + 1))).push (.split here next), here)
  | .zeroOrMore =>
    ((a.push (.consume condition false (here + 1))).push (.split here next), here + 1)

/-- Lays out slots in front of the state `next` and tells the state in which they start. -/
def pushSlots (a : Automaton) (next : Nat) : List Slot → Automaton × Nat
  | [] => (a, next)
  | slot :: rest =>
    let (a, next) := a.pushSlots next rest
    a.pushSlot slot next

def pushPattern (a : Automaton) (rule index : Nat) (p : Pattern) : Automaton :=
  let (b, entry) := (a.push (.accept rule index)).pushSlots a.states.size p.slots
  { b with branches := b.branches ++ [⟨entry, rule, index, p.required⟩] }

/-- Adds branches for patterns whose indices start at `index`. -/
def pushPatterns (a : Automaton) (rule index : Nat) : List Pattern → Automaton
  | [] => a
  | p :: rest => (a.pushPattern rule index p).pushPatterns rule (index + 1) rest

def pushRule (a : Automaton) (rule : TextId × List Pattern) : Automaton :=
  { a with keys := a.keys ++ [rule.1] }.pushPatterns a.keys.length 0 rule.2

/-- The automaton of rules in order. -/
def ofRules (rules : List (TextId × List Pattern)) : Automaton :=
  rules.foldl pushRule {}

end Automaton

end SpanRules
