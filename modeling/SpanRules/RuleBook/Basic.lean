import SpanRules.Automaton.Search
import SpanRules.Match
import SpanRules.Pattern.Reader
import SpanRules.Text.Lexicon

/-! # Books of rules

A book holds rules under keys, in the order of their entry, beside the automaton of them all.
-/

namespace SpanRules

/-- How rules are read and searched for. -/
structure Options where
  unknown : UnknownPolicy := .refuse
  /-- Whether patterns whose literal texts do not occur are skipped. -/
  prescan : Bool := true
deriving DecidableEq, Repr

/-- Patterns under a key, any of which may match, and what is done at a match. -/
structure Rule (σ : Type) where
  key : TextId
  patterns : List Pattern
  handler : Option (Handler σ)

/-- Rules under keys, and their automaton. -/
structure RuleBook (σ : Type) where
  options : Options := {}
  /-- The texts of the keys. -/
  lexicon : Lexicon := {}
  /-- The rules in order. -/
  rules : List (Rule σ) := []
  /-- The positions of the keys among the rules. -/
  positions : Table TextId Nat := .empty
  automaton : Automaton := {}

namespace RuleBook

variable [Hashing] {σ : Type}

/-- The automaton of rules. -/
def compile (rules : List (Rule σ)) : Automaton :=
  .ofRules (rules.map fun r => (r.key, r.patterns))

def size (b : RuleBook σ) : Nat :=
  b.rules.length

def isEmpty (b : RuleBook σ) : Bool :=
  b.rules.isEmpty

def contains (b : RuleBook σ) (key : String) : Bool :=
  b.positions.contains (.of key)

def rule? (b : RuleBook σ) (id : TextId) : Option (Rule σ) :=
  (b.positions.find? id).bind fun position => b.rules[position]?

/-- The text of a key that has a rule. -/
def keyText? (b : RuleBook σ) (id : TextId) : Option String :=
  (b.positions.find? id).bind fun _ => b.lexicon.get? id

/-- The handler and the patterns under a key. -/
def get (b : RuleBook σ) (key : String) :
    Except Fault (Option (Handler σ) × List Pattern) :=
  match b.rule? (.of key) with
  | some r => .ok (r.handler, r.patterns)
  | none => .error (.notFound key)

/-- The book with other rules and the automaton for them. -/
def withRules (b : RuleBook σ) (rules : List (Rule σ)) : RuleBook σ :=
  { b with rules, automaton := compile rules }

/-- Enters patterns under a key. A new key comes last; a known one stays in its place, keeps its
patterns in front of the new ones and loses its handler to the new one. -/
def addPatterns (b : RuleBook σ) (key : String) (handler : Option (Handler σ))
    (patterns : List Pattern) : Except Fault (RuleBook σ) :=
  if patterns = [] then .error (.invalidPattern (.noPatterns key))
  else
    let b := { b with lexicon := b.lexicon.add key }
    match b.positions.find? (.of key) with
    | some position =>
      .ok (b.withRules (b.rules.modify position fun r =>
        { r with patterns := r.patterns ++ patterns, handler }))
    | none =>
      let b := { b with positions := b.positions.insert (.of key) b.rules.length }
      .ok (b.withRules (b.rules ++ [⟨.of key, patterns, handler⟩]))

/-- Reads patterns and enters them under a key. -/
def add (b : RuleBook σ) (key : String) (handler : Option (Handler σ)) (patterns : List Json) :
    Except Fault (RuleBook σ) :=
  if patterns.isEmpty then .error (.invalidPattern (.noPatterns key))
  else match collect (Pattern.ofJson b.options.unknown) patterns with
    | .ok patterns => b.addPatterns key handler patterns
    | .error fault => .error fault

/-- Deletes the rule of a key. The others close ranks. -/
def remove (b : RuleBook σ) (key : String) : Except Fault (RuleBook σ) :=
  match b.positions.find? (.of key) with
  | none => .error (.notFound key)
  | some position =>
    let positions := (b.positions.erase (.of key)).map fun p => if position < p then p - 1 else p
    .ok ({ b with positions }.withRules (b.rules.eraseIdx position))

end RuleBook

inductive RuleChange (σ : Type)
  | add (key : String) (handler : Option (Handler σ)) (patterns : List Json)
  | addPatterns (key : String) (handler : Option (Handler σ)) (patterns : List Pattern)
  | remove (key : String)

namespace RuleBook

variable [Hashing] {σ : Type}

/-- Makes a change, or refuses it. -/
def change (b : RuleBook σ) : RuleChange σ → Except Fault (RuleBook σ)
  | .add key handler patterns => b.add key handler patterns
  | .addPatterns key handler patterns => b.addPatterns key handler patterns
  | .remove key => b.remove key

/-- Makes a change, or leaves the book as it is when the change is refused. -/
def attempt (b : RuleBook σ) (c : RuleChange σ) : RuleBook σ :=
  match b.change c with
  | .ok b => b
  | .error _ => b

/-- The book after changes in order, refused ones included. -/
def history (options : Options) (changes : List (RuleChange σ)) : RuleBook σ :=
  changes.foldl attempt { options }

end RuleBook

end SpanRules
