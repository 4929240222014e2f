import Mathlib.Logic.Relation
import Mathlib.Order.Nat
import SpanRules.Automaton.Search

/-! # Paths of an automaton

A path leads from a state before one token to a state before another. It is what the search
follows, but it needs neither lists of states nor stamps.
-/

namespace SpanRules

/-- One state is a split that goes on in the other. -/
def Forks (states : Array State) (state next : Nat) : Prop :=
  ∃ first second, states[state]? = some (.split first second) ∧ (next = first ∨ next = second)

/-- Splits alone lead from one state to the other. -/
def Closure (states : Array State) : Nat → Nat → Prop :=
  Relation.ReflTransGen (Forks states)

namespace Automaton

/-- A path from a state before the token `pos` to the state `goal` before the token `stop`. -/
inductive Path (a : Automaton) (view : TokenView) (goal stop : Nat) : Nat → Nat → Prop where
  | here : Path a view goal stop goal stop
  | fork {state next pos} (h : Forks a.states state next) :
      Path a view goal stop next pos → Path a view goal stop state pos
  | take {state next pos} (h : a.target? view pos state = some next) :
      Path a view goal stop next (pos + 1) → Path a view goal stop state pos

variable {a : Automaton} {view : TokenView} {state next goal pos stop : Nat}

theorem target?_eq_some_iff :
    a.target? view pos state = some next ↔
      ∃ condition negated c, a.states[state]? = some (.consume condition negated next) ∧
        a.conditions[condition]? = some c ∧ c.holds view pos ≠ negated := by
  constructor
  · intro h
    unfold target? at h
    split at h
    · rename_i condition negated target hs
      split at h
      · rename_i c hc
        split at h
        · simp at h
        · rename_i hholds
          obtain rfl : target = next := by simpa using h
          exact ⟨condition, negated, c, hs, hc, hholds⟩
      · simp at h
    · simp at h
  · rintro ⟨condition, negated, c, hs, hc, hholds⟩
    simp [target?, hs, hc, hholds]

/-! ## The first move -/

theorem Path.le (h : a.Path view goal stop state pos) : pos ≤ stop := by
  induction h with
  | here => exact le_rfl
  | fork _ _ ih => exact ih
  | take _ _ ih => omega

/-- From a split a path to another state goes on in one of the two. -/
theorem path_of_split {first second : Nat} (hs : a.states[state]? = some (.split first second))
    (hne : goal ≠ state) :
    a.Path view goal stop state pos ↔
      a.Path view goal stop first pos ∨ a.Path view goal stop second pos := by
  constructor
  · intro h
    cases h with
    | here => exact absurd rfl hne
    | fork hf hrest =>
        obtain ⟨x, y, hsplit, hnext⟩ := hf
        obtain ⟨rfl, rfl⟩ : first = x ∧ second = y := by simpa [hs] using hsplit
        rcases hnext with rfl | rfl
        · exact Or.inl hrest
        · exact Or.inr hrest
    | take ht hrest =>
        obtain ⟨_, _, _, hconsume, -⟩ := target?_eq_some_iff.mp ht
        simp [hs] at hconsume
  · rintro (h | h)
    · exact .fork ⟨first, second, hs, Or.inl rfl⟩ h
    · exact .fork ⟨first, second, hs, Or.inr rfl⟩ h

/-- From a state that takes a token a path goes on behind the token, unless it ends at once. -/
theorem path_consume_iff {condition : Nat} {negated : Bool} {c : Condition}
    (hs : a.states[state]? = some (.consume condition negated next))
    (hc : a.conditions[condition]? = some c) :
    a.Path view goal stop state pos ↔ goal = state ∧ stop = pos ∨
      c.holds view pos ≠ negated ∧ a.Path view goal stop next (pos + 1) := by
  constructor
  · intro h
    cases h with
    | here => exact Or.inl ⟨rfl, rfl⟩
    | fork hf hrest =>
        obtain ⟨_, _, hsplit, -⟩ := hf
        simp [hs] at hsplit
    | take ht hrest =>
        obtain ⟨i, n, d, hconsume, hd, hholds⟩ := target?_eq_some_iff.mp ht
        obtain ⟨rfl, rfl, rfl⟩ : condition = i ∧ negated = n ∧ next = _ := by
          simpa [hs] using hconsume
        obtain rfl : c = d := by simpa [hc] using hd
        exact Or.inr ⟨hholds, hrest⟩
  · rintro (⟨rfl, rfl⟩ | ⟨hholds, hrest⟩)
    · exact .here
    · exact .take (target?_eq_some_iff.mpr ⟨condition, negated, c, hs, hc, hholds⟩) hrest

theorem path_of_consume {condition : Nat} {negated : Bool} {c : Condition}
    (hs : a.states[state]? = some (.consume condition negated next))
    (hc : a.conditions[condition]? = some c) (hne : goal ≠ state) :
    a.Path view goal stop state pos ↔
      c.holds view pos ≠ negated ∧ a.Path view goal stop next (pos + 1) := by
  rw [path_consume_iff hs hc]
  exact or_iff_right fun h => hne h.1

theorem path_self_of_consume {condition : Nat} {negated : Bool} {c : Condition}
    (hs : a.states[state]? = some (.consume condition negated next))
    (hc : a.conditions[condition]? = some c) :
    a.Path view state stop state pos ↔ stop = pos ∨
      c.holds view pos ≠ negated ∧ a.Path view state stop next (pos + 1) := by
  rw [path_consume_iff hs hc]
  exact or_congr_left (and_iff_right rfl)

/-- An accepting state leads nowhere. -/
theorem path_of_accept {rule pattern : Nat} (hs : a.states[state]? = some (.accept rule pattern)) :
    a.Path view goal stop state pos ↔ goal = state ∧ stop = pos := by
  constructor
  · intro h
    cases h with
    | here => exact ⟨rfl, rfl⟩
    | fork hf _ =>
        obtain ⟨_, _, hsplit, -⟩ := hf
        simp [hs] at hsplit
    | take ht _ =>
        obtain ⟨_, _, _, hconsume, -⟩ := target?_eq_some_iff.mp ht
        simp [hs] at hconsume
  · rintro ⟨rfl, rfl⟩
    exact .here

/-! ## The last token -/

theorem Path.of_closure (h : Closure a.states state goal) : a.Path view goal stop state stop := by
  induction h using Relation.ReflTransGen.head_induction_on with
  | refl => exact .here
  | head hf _ ih => exact .fork hf ih

theorem Path.closure (h : a.Path view goal stop state pos) (hpos : stop ≤ pos) :
    Closure a.states state goal := by
  induction h with
  | here => exact .refl
  | fork hf _ ih => exact .head hf (ih hpos)
  | take _ hrest _ =>
      have := hrest.le
      omega

/-- A path that takes no token uses splits only. -/
theorem path_self_iff : a.Path view goal stop state stop ↔ Closure a.states state goal :=
  ⟨fun h => h.closure le_rfl, Path.of_closure⟩

theorem Path.trans {mid between : Nat} (h : a.Path view mid between state pos)
    (hrest : a.Path view goal stop mid between) : a.Path view goal stop state pos := by
  induction h with
  | here => exact hrest
  | fork hf _ ih => exact .fork hf ih
  | take ht _ ih => exact .take ht ih

/-- A path that takes tokens takes a last one, behind which it uses splits only. -/
theorem Path.exists_last (h : a.Path view goal (stop + 1) state pos) (hpos : pos ≤ stop) :
    ∃ last next, a.Path view last stop state pos ∧ a.target? view stop last = some next ∧
      Closure a.states next goal := by
  induction h with
  | here => omega
  | fork hf _ ih =>
      obtain ⟨last, next, hpath, hlast⟩ := ih hpos
      exact ⟨last, next, .fork hf hpath, hlast⟩
  | @take state next pos ht hrest ih =>
      rcases hpos.eq_or_lt with rfl | hpos
      · exact ⟨state, next, .here, ht, hrest.closure le_rfl⟩
      · obtain ⟨last, next, hpath, hlast⟩ := ih hpos
        exact ⟨last, next, .take ht hpath, hlast⟩

theorem path_succ_iff (hpos : pos ≤ stop) :
    a.Path view goal (stop + 1) state pos ↔
      ∃ last next, a.Path view last stop state pos ∧ a.target? view stop last = some next ∧
        Closure a.states next goal := by
  refine ⟨fun h => h.exists_last hpos, ?_⟩
  rintro ⟨last, next, hpath, ht, hclosure⟩
  exact hpath.trans (.take ht (.of_closure hclosure))

end Automaton

end SpanRules
