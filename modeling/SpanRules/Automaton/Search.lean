import SpanRules.Automaton.Frontier
import SpanRules.Automaton.Prescan

/-! # Searching a sequence of tokens

The search starts at every token anew. From the entries of all active branches it takes token by
token; whenever a state accepts, the tokens so far are a window of its rule.
-/

namespace SpanRules

/-- A match of a rule, known by its position, on the tokens from `start` to before `stop`. -/
structure Window where
  start : Nat
  stop : Nat
  rule : Nat
deriving DecidableEq, Repr

namespace Window

/-- Windows by start, then by stop, then by the position of the rule. -/
def lt (v w : Window) : Bool :=
  v.start < w.start || (v.start = w.start &&
    (v.stop < w.stop || (v.stop = w.stop && v.rule < w.rule)))

/-- Puts a window among others in decreasing order, unless it is there already. -/
def insert (w : Window) : List Window → List Window
  | [] => [w]
  | v :: rest =>
    if v.lt w then w :: v :: rest else if v = w then v :: rest else v :: insert w rest

end Window

/-- What a search did. -/
structure Effort where
  /-- Branches entered. -/
  active : Nat := 0
  /-- Branches there are. -/
  total : Nat := 0
  /-- Tokens at which the search was started. -/
  starts : Nat := 0
  /-- Tokens taken, over all starts. -/
  steps : Nat := 0
  /-- States listed, over all sets. -/
  visited : Nat := 0
  /-- Accepting states met, repeated windows included. -/
  accepts : Nat := 0
deriving DecidableEq, Repr

/-- A search on its way. -/
structure Progress where
  frontier : Frontier
  /-- The windows found, in decreasing order and each once. -/
  found : List Window := []
  effort : Effort

namespace Automaton

/-- The state that the token at `pos` leads to from a state, if the state takes it. -/
def target? (a : Automaton) (view : TokenView) (pos state : Nat) : Option Nat :=
  match a.states[state]? with
  | some (.consume condition negated next) =>
    match a.conditions[condition]? with
    | some c => if c.holds view pos = negated then none else some next
    | none => none
  | _ => none

/-- The next set when the token at `pos` is taken in each state of the frontier. -/
def step (a : Automaton) (view : TokenView) (pos : Nat) (f : Frontier) : Frontier :=
  f.renew.addAll a.states (f.members.filterMap (a.target? view pos))

/-- The rule that a state accepts. -/
def acceptedRule? (a : Automaton) (state : Nat) : Option Nat :=
  match a.states[state]? with
  | some (.accept rule _) => some rule
  | _ => none

/-- The windows from `start` to before `pos` that the frontier accepts. -/
def accepted (a : Automaton) (start pos : Nat) (f : Frontier) : List Window :=
  (f.members.filterMap a.acceptedRule?).map (⟨start, pos, ·⟩)

/-- Notes the windows that are accepted after at least one token. -/
def note (a : Automaton) (start pos : Nat) (p : Progress) : Progress :=
  if start < pos then
    let accepted := a.accepted start pos p.frontier
    { p with
      found := accepted.foldl (fun found w => w.insert found) p.found
      effort := { p.effort with accepts := p.effort.accepts + accepted.length } }
  else p

def advance (a : Automaton) (view : TokenView) (pos : Nat) (p : Progress) : Progress :=
  let next := a.step view pos p.frontier
  { p with
    frontier := next
    effort := { p.effort with
      steps := p.effort.steps + 1
      visited := p.effort.visited + next.members.length } }

/-- Goes on from the position `pos`, with `left` tokens before the end, while states are
active. -/
def sweep (a : Automaton) (view : TokenView) (start pos : Nat) : Nat → Progress → Progress
  | 0, p => a.note start pos p
  | left + 1, p =>
    let p := a.note start pos p
    if p.frontier.members.isEmpty then p
    else a.sweep view start (pos + 1) left (a.advance view pos p)

/-- Starts at a token with the entries of the active branches. -/
def searchFrom (a : Automaton) (view : TokenView) (entries : List Nat) (p : Progress)
    (start : Nat) : Progress :=
  let first := p.frontier.renew.addAll a.states entries
  a.sweep view start start (view.size - start)
    { p with
      frontier := first
      effort := { p.effort with
        starts := p.effort.starts + 1
        visited := p.effort.visited + first.members.length } }

/-- All windows of all rules in order, each once, and what it took to find them. Without active
branches nothing is started. -/
def search (a : Automaton) (view : TokenView) (prescan : Bool) : List Window × Effort :=
  let entries := (a.activeBranches view prescan).map (·.entry)
  let effort : Effort := { active := entries.length, total := a.branches.length }
  if entries.isEmpty then ([], effort)
  else
    let p := (List.range view.size).foldl (a.searchFrom view entries)
      { frontier := .start a.states.size, effort }
    (p.found.reverse, p.effort)

end Automaton

end SpanRules
