import SpanRules.Automaton.Basic

/-! # Sets of active states

A frontier lists the states that wait for a token or accept, each once. Whether a state has been
visited is told by a stamp that equals the current generation, so that a new generation forgets
all visits at once.
-/

namespace SpanRules

/-- A set of active states under construction. -/
structure Frontier where
  /-- The generation in which each state was last visited. -/
  stamps : Array UInt32
  generation : UInt32
  /-- The active states in the order in which they were found. -/
  members : List Nat := []
deriving DecidableEq, Repr

namespace Frontier

/-- The stamp of states that have not been visited, which is never the current generation. -/
def unvisited : UInt32 :=
  4294967295

/-- The first frontier for an arena of `count` states. -/
def start (count : Nat) : Frontier where
  stamps := Array.replicate count unvisited
  generation := 0

/-- Begins an empty set. When the generations are used up, all stamps are reset and they start
again from zero. -/
def renew (f : Frontier) : Frontier :=
  let generation := f.generation + 1
  if generation = unvisited then
    { stamps := Array.replicate f.stamps.size unvisited, generation := 0 }
  else { stamps := f.stamps, generation }

def visited (f : Frontier) (state : Nat) : Bool :=
  f.stamps[state]? = some f.generation

/-- Stamps a state. -/
def visit (f : Frontier) (state : Nat) : Frontier :=
  { f with stamps := f.stamps.setIfInBounds state f.generation }

/-- Lists a state. -/
def insert (f : Frontier) (state : Nat) : Frontier :=
  { f with members := f.members ++ [state] }

/-- The number of states that have not been visited in the current generation. -/
def unvisitedCount (f : Frontier) : Nat :=
  f.stamps.countP (· ≠ f.generation)

theorem unvisitedCount_visit_lt {f : Frontier} {state : Nat} (hs : state < f.stamps.size)
    (hv : f.visited state = false) : (f.visit state).unvisitedCount < f.unvisitedCount := by
  have hne : f.stamps[state] ≠ f.generation := by
    simpa [visited, hs] using hv
  have hpos : 0 < f.unvisitedCount :=
    Array.countP_pos_iff.2 ⟨_, Array.getElem_mem hs, by simpa using hne⟩
  have hset : (f.visit state).unvisitedCount = f.unvisitedCount - 1 := by
    simp [unvisitedCount, visit, Array.setIfInBounds, hs, Array.countP_set, hne]
  omega

/-- Visits the pending states, the first one first, and all that splits lead to. States that take
a token or accept are listed. Positions outside the arena are passed over. -/
def explore (states : Array State) (f : Frontier) : List Nat → Frontier
  | [] => f
  | state :: pending =>
    if _h : state < f.stamps.size ∧ f.visited state = false then
      match states[state]? with
      | some (.split first second) => explore states (f.visit state) (first :: second :: pending)
      | some _ => explore states ((f.visit state).insert state) pending
      | none => explore states (f.visit state) pending
    else explore states f pending
termination_by pending => (f.unvisitedCount, pending.length)
decreasing_by
  · exact Prod.Lex.left _ _ (unvisitedCount_visit_lt _h.1 _h.2)
  · exact Prod.Lex.left _ _ (unvisitedCount_visit_lt _h.1 _h.2)
  · exact Prod.Lex.left _ _ (unvisitedCount_visit_lt _h.1 _h.2)
  · exact Prod.Lex.right _ (Nat.lt_succ_self _)

/-- Adds a state and all that splits lead to from it. -/
def add (f : Frontier) (states : Array State) (state : Nat) : Frontier :=
  explore states f [state]

def addAll (f : Frontier) (states : Array State) (entries : List Nat) : Frontier :=
  entries.foldl (·.add states ·) f

end Frontier

end SpanRules
