import SpanRules.Proofs.Automaton.Stations

/-! # The effort of a search, pattern by pattern

All patterns share the arena and the frontier, and still each of them is searched for as if it were
alone. So the counters of a search add up those of searches for single patterns, except that
patterns share the tokens taken, of which as many are needed as for the one that lasts longest.
-/

namespace SpanRules

open Finset

theorem sum_sum_map {ι α : Type} (s : Finset ι) (l : List α) (f : ι → α → Nat) :
    ∑ i ∈ s, (l.map (f i)).sum = (l.map fun x => ∑ i ∈ s, f i x).sum := by
  induction l with
  | nil => simp
  | cons x l ih => simp [sum_add_distrib, ih]

theorem sum_map_ite {α : Type} (l : List α) (q : α → Prop) [DecidablePred q] :
    (l.map fun x => if q x then 1 else 0).sum = l.countP fun x => q x := by
  induction l with
  | nil => rfl
  | cons x l ih => by_cases hx : q x <;> simp [hx, ih, Nat.add_comm]

/-! ## Counts that die out -/

/-- From `low` on, what is zero once stays zero. -/
def DiesOut (low : Nat) (count : Nat → Nat) : Prop :=
  ∀ ⦃pos later⦄, low ≤ pos → pos ≤ later → count pos = 0 → count later = 0

/-- The number of positions at which something is counted. -/
def lifetime (low high : Nat) (count : Nat → Nat) : Nat :=
  ∑ pos ∈ Ico low high, if count pos = 0 then 0 else 1

section Lifetime

variable {low high : Nat} {count other : Nat → Nat}

theorem lifetime_le (h : ∀ pos, low ≤ pos → other pos = 0 → count pos = 0) :
    lifetime low high count ≤ lifetime low high other := by
  refine sum_le_sum fun pos hpos => ?_
  split
  · exact Nat.zero_le _
  · rename_i hcount
    rw [if_neg fun hother => hcount (h pos (mem_Ico.mp hpos).1 hother)]

theorem lifetime_add_of_le (h : ∀ pos, low ≤ pos → other pos = 0 → count pos = 0) :
    lifetime low high (fun pos => count pos + other pos) = lifetime low high other := by
  refine sum_congr rfl fun pos hpos => ?_
  have hzero : count pos + other pos = 0 ↔ other pos = 0 := by
    have := h pos (mem_Ico.mp hpos).1
    omega
  simp only [hzero]

/-- Of two counts that die out one outlasts the other, and their sum lives as long. -/
theorem lifetime_add (hcount : DiesOut low count) (hother : DiesOut low other) :
    lifetime low high (fun pos => count pos + other pos) =
      max (lifetime low high count) (lifetime low high other) := by
  by_cases h : ∀ pos, low ≤ pos → other pos = 0 → count pos = 0
  · rw [lifetime_add_of_le h, max_eq_right (lifetime_le h)]
  · push Not at h
    obtain ⟨last, hlast, hdead, halive⟩ := h
    have h' (pos : Nat) (hpos : low ≤ pos) (hzero : count pos = 0) : other pos = 0 := by
      rcases Nat.le_total pos last with hle | hle
      · exact absurd (hcount hpos hle hzero) halive
      · exact hother hlast hle hdead
    simp only [Nat.add_comm (count _)]
    rw [lifetime_add_of_le h', max_eq_left (lifetime_le h')]

end Lifetime

namespace Automaton

variable {rules : List (TextId × List Pattern)} {view : TokenView} {prescan : Bool}
  {start pos : Nat}

/-! ## Steps -/

/-- The tokens that a search for the pattern alone takes from a start. -/
def stepsAlone (key : TextId) (p : Pattern) (view : TokenView) (start : Nat) : Nat :=
  let a := ofRules [(key, [p])]
  let begun : Progress := { frontier := .start a.states.size, effort := {} }
  (a.searchFrom view (a.branches.map (·.entry)) begun start).effort.steps

theorem standing_of_admitted {p : Pattern} (h : p.Admitted view prescan) :
    p.standing view prescan start pos = p.standing view false start pos := by
  have hfalse : p.Admitted view false := fun hscan => absurd hscan Bool.false_ne_true
  simp only [Pattern.standing, h, hfalse]

theorem standing_of_not_admitted {p : Pattern} (h : ¬p.Admitted view prescan) :
    p.standing view prescan start pos = 0 := by
  simp [Pattern.standing, h]

/-- The counts are those of active states, of which there will be none once there are none. -/
theorem diesOut_standing (patterns : List Pattern) (view : TokenView) (prescan : Bool)
    (start : Nat) :
    DiesOut start fun pos => (patterns.map (·.standing view prescan start pos)).sum := by
  let a := ofRules [(.empty, patterns)]
  have hcount (pos : Nat) : a.activeCount view (a.activeEntries view prescan) start pos =
      (patterns.map (·.standing view prescan start pos)).sum := by
    rw [activeCount_ofRules, List.flatMap_singleton]
  intro pos later hpos hlater
  simp only [← hcount, activeCount_eq_zero_iff]
  intro h state
  exact not_active_of_le hpos h hlater state

theorem diesOut_standing_single (p : Pattern) (view : TokenView) (prescan : Bool) (start : Nat) :
    DiesOut start (p.standing view prescan start) := by
  simpa using diesOut_standing [p] view prescan start

/-- Patterns stand somewhere for as long as the one that does so longest. -/
theorem lifetime_standing (patterns : List Pattern) :
    lifetime start view.size (fun pos =>
        (patterns.map (·.standing view prescan start pos)).sum) =
      ((patterns.filter fun p => p.Admitted view prescan).map fun p =>
        lifetime start view.size (p.standing view false start)).foldr max 0 := by
  induction patterns with
  | nil => simp [lifetime]
  | cons p patterns ih =>
      by_cases hp : p.Admitted view prescan
      · rw [List.filter_cons_of_pos (by simpa using hp), List.map_cons, List.foldr_cons, ← ih]
        simp only [List.map_cons, List.sum_cons, standing_of_admitted hp]
        exact lifetime_add (diesOut_standing_single p view false start)
          (diesOut_standing patterns view prescan start)
      · rw [List.filter_cons_of_neg (by simpa using hp), ← ih]
        simp only [List.map_cons, List.sum_cons, standing_of_not_admitted hp, Nat.zero_add]

theorem stepsFrom_eq_lifetime (rules : List (TextId × List Pattern)) :
    (ofRules rules).stepsFrom view ((ofRules rules).activeEntries view prescan) start =
      lifetime start view.size fun pos =>
        ((rules.flatMap Prod.snd).map (·.standing view prescan start pos)).sum := by
  simp only [stepsFrom, lifetime, activeCount_ofRules]

theorem stepsAlone_eq_lifetime (key : TextId) (p : Pattern) (hstart : start < view.size) :
    stepsAlone key p view start = lifetime start view.size (p.standing view false start) := by
  let a := ofRules [(key, [p])]
  have hsteps : stepsAlone key p view start =
      a.stepsFrom view (a.activeEntries view false) start :=
    (gains_searchFrom (ready_start a) hstart).steps.trans (Nat.zero_add _)
  rw [hsteps, stepsFrom_eq_lifetime]
  simp

/-- From a start as many tokens are taken as for the pattern that needs most. -/
theorem stepsFrom_ofRules (key : TextId) (hstart : start < view.size) :
    (ofRules rules).stepsFrom view ((ofRules rules).activeEntries view prescan) start =
      (((rules.flatMap Prod.snd).filter fun p => p.Admitted view prescan).map
        (stepsAlone key · view start)).foldr max 0 := by
  simp only [stepsAlone_eq_lifetime key _ hstart]
  rw [stepsFrom_eq_lifetime, lifetime_standing]

/-! ## Matches -/

/-- The stretches of tokens that the pattern matches, by their starts and stops. -/
def stretches (p : Pattern) (view : TokenView) : Finset (Nat × Nat) :=
  {w ∈ range view.size ×ˢ range (view.size + 1) | w.1 < w.2 ∧ p.Matches view w.1 w.2}

theorem card_stretches (p : Pattern) (view : TokenView) :
    (stretches p view).card = ∑ start ∈ range view.size,
      ∑ stop ∈ Ico (start + 1) (view.size + 1), if p.Matches view start stop then 1 else 0 := by
  have hstops (start : Nat) :
      Ico (start + 1) (view.size + 1) = {stop ∈ range (view.size + 1) | start < stop} := by
    ext stop
    simp only [mem_Ico, mem_filter, mem_range]
    omega
  simp only [stretches, card_filter, sum_product, hstops, sum_filter, ite_and]

theorem acceptsFrom_ofRules (rules : List (TextId × List Pattern)) (view : TokenView)
    (prescan : Bool) :
    ∑ start ∈ range view.size,
        (ofRules rules).acceptsFrom view ((ofRules rules).activeEntries view prescan) start =
      ((rules.flatMap Prod.snd).map fun p => (stretches p view).card).sum := by
  have hstart (start : Nat) :
      (ofRules rules).acceptsFrom view ((ofRules rules).activeEntries view prescan) start =
        ((rules.flatMap Prod.snd).map fun p => ∑ stop ∈ Ico (start + 1) (view.size + 1),
          if p.Matches view start stop then 1 else 0).sum := by
    rw [acceptsFrom, ← sum_sum_map]
    refine sum_congr rfl fun stop hstop => ?_
    exact acceptCount_ofRules rules (Nat.le_of_lt_succ (mem_Ico.mp hstop).2)
  simp only [hstart, sum_sum_map, card_stretches]

theorem visitedFrom_ofRules (rules : List (TextId × List Pattern)) (view : TokenView)
    (prescan : Bool) :
    ∑ start ∈ range view.size,
        (ofRules rules).visitedFrom view ((ofRules rules).activeEntries view prescan) start =
      ((rules.flatMap Prod.snd).map fun p => ∑ start ∈ range view.size,
        ∑ pos ∈ Ico start (view.size + 1), p.standing view prescan start pos).sum := by
  simp only [visitedFrom, activeCount_ofRules, sum_sum_map]

/-! ## Matches of all patterns -/

/-- The matches of rules in tokens: the pattern with its place, and the start and the stop. -/
def matchings (rules : List (TextId × List Pattern)) (view : TokenView) :
    Set (Placed × Nat × Nat) :=
  {m | m.1 ∈ placed rules ∧ m.2.1 < m.2.2 ∧ m.2.2 ≤ view.size ∧
    m.1.pattern.Matches view m.2.1 m.2.2}

theorem ncard_matchings (rules : List (TextId × List Pattern)) (view : TokenView) :
    (matchings rules view).ncard =
      ((rules.flatMap Prod.snd).map fun p => (stretches p view).card).sum := by
  classical
  have hset : matchings rules view =
      {m ∈ (placed rules).toFinset ×ˢ range view.size ×ˢ range (view.size + 1) |
        m.2.1 < m.2.2 ∧ m.1.pattern.Matches view m.2.1 m.2.2} := by
    ext m
    simp only [matchings, Set.mem_ofPred_eq, coe_filter, mem_product, List.mem_toFinset, mem_range]
    constructor
    · rintro ⟨hp, hlt, hstop, hmatches⟩
      exact ⟨⟨hp, by omega, by omega⟩, hlt, hmatches⟩
    · rintro ⟨⟨hp, -, hstop⟩, hlt, hmatches⟩
      exact ⟨hp, hlt, by omega, hmatches⟩
  rw [hset, Set.ncard_coe_finset, card_filter, sum_product]
  simp only [← card_filter]
  rw [← map_pattern_placed, List.map_map, ← List.sum_toFinset _ (nodup_placed rules)]
  rfl

theorem finite_matchings (rules : List (TextId × List Pattern)) (view : TokenView) :
    (matchings rules view).Finite := by
  refine ((placed rules).finite_toSet.prod
    ((Set.finite_le_nat view.size).prod (Set.finite_le_nat view.size))).subset ?_
  rintro ⟨p, start, stop⟩ ⟨hp, hlt, hstop, -⟩
  exact ⟨hp, hlt.le.trans hstop, hstop⟩

/-- The window of a match. -/
def windowOf (m : Placed × Nat × Nat) : Window :=
  ⟨m.2.1, m.2.2, m.1.rule⟩

/-- The windows found are those of matches. -/
theorem length_search (rules : List (TextId × List Pattern)) (view : TokenView) (prescan : Bool) :
    ((ofRules rules).search view prescan).1.length =
      (windowOf '' matchings rules view).ncard := by
  classical
  have hnodup := (searched_search (ofRules rules) view prescan).increasing.nodup
  rw [← List.toFinset_card_of_nodup hnodup, ← Set.ncard_coe_finset]
  congr 1
  ext w
  rw [List.coe_toFinset, Set.mem_ofPred_eq, mem_search]
  constructor
  · rintro ⟨hlt, hstop, p, hp, hrule, hmatches⟩
    refine ⟨(p, w.start, w.stop), ⟨hp, hlt, hstop, hmatches⟩, ?_⟩
    rw [windowOf, hrule]
  · rintro ⟨⟨p, start, stop⟩, ⟨hp, hlt, hstop, hmatches⟩, rfl⟩
    exact ⟨hlt, hstop, p, hp, rfl, hmatches⟩

/-- Two matches have one window only if two patterns of a rule match the same tokens. -/
theorem injOn_windowOf_iff :
    Set.InjOn windowOf (matchings rules view) ↔
      ∀ p ∈ placed rules, ∀ q ∈ placed rules, p.rule = q.rule → p.index ≠ q.index →
        ∀ start stop, start < stop → stop ≤ view.size →
          ¬(p.pattern.Matches view start stop ∧ q.pattern.Matches view start stop) := by
  constructor
  · rintro hinj p hp q hq hrule hindex start stop hlt hstop ⟨hpm, hqm⟩
    have hwindow : windowOf (p, start, stop) = windowOf (q, start, stop) := by
      rw [windowOf, windowOf, hrule]
    have heq := hinj ⟨hp, hlt, hstop, hpm⟩ ⟨hq, hlt, hstop, hqm⟩ hwindow
    exact hindex (congrArg (·.1.index) heq)
  · rintro h ⟨p, start, stop⟩ ⟨hp, hlt, hstop, hpm⟩ ⟨q, start', stop'⟩ ⟨hq, -, -, hqm⟩ hwindow
    simp only [windowOf, Window.mk.injEq] at hwindow
    obtain ⟨rfl, rfl, hrule⟩ := hwindow
    by_cases hindex : p.index = q.index
    · exact congrArg (·, start, stop) (eq_of_mem_placed hp hq hrule hindex)
    · exact absurd ⟨hpm, hqm⟩ (h p hp q hq hrule hindex start stop hlt hstop)

/-! ## All counters -/

theorem length_branches_ofRules (rules : List (TextId × List Pattern)) :
    (ofRules rules).branches.length = (rules.flatMap Prod.snd).length := by
  rw [(branches_ofRules rules).length_eq, ← map_pattern_placed, List.length_map]

theorem length_activeEntries_admitted (rules : List (TextId × List Pattern)) (view : TokenView)
    (prescan : Bool) :
    ((ofRules rules).activeEntries view prescan).length =
      ((rules.flatMap Prod.snd).map fun p => if p.Admitted view prescan then 1 else 0).sum := by
  rw [sum_map_ite]
  cases prescan with
  | true => simpa [Pattern.Admitted] using length_activeEntries rules view
  | false => simp [Pattern.Admitted, activeEntries, activeBranches, length_branches_ofRules]

/-- What a search for patterns counts, told from each pattern by itself. -/
structure Counts (patterns : List Pattern) (view : TokenView) (prescan : Bool) (e : Effort) :
    Prop where
  active : e.active = (patterns.map fun p => if p.Admitted view prescan then 1 else 0).sum
  total : e.total = patterns.length
  starts : e.starts = if e.active = 0 then 0 else view.size
  steps (key : TextId) : e.steps = ∑ start ∈ range view.size,
    ((patterns.filter fun p => p.Admitted view prescan).map
      (stepsAlone key · view start)).foldr max 0
  visited : e.visited = (patterns.map fun p => ∑ start ∈ range view.size,
    ∑ pos ∈ Ico start (view.size + 1), p.standing view prescan start pos).sum
  accepts : e.accepts = (patterns.map fun p => (stretches p view).card).sum

theorem counts_search (rules : List (TextId × List Pattern)) (view : TokenView)
    (prescan : Bool) :
    Counts (rules.flatMap Prod.snd) view prescan ((ofRules rules).search view prescan).2 := by
  have h := searched_search (ofRules rules) view prescan
  refine ⟨?_, ?_, ?_, fun key => ?_, ?_, ?_⟩
  · rw [h.active, length_activeEntries_admitted]
  · rw [h.total, length_branches_ofRules]
  · rw [h.starts, h.active]
    simp only [List.length_eq_zero_iff]
  · rw [h.steps]
    exact sum_congr rfl fun start hstart => stepsFrom_ofRules key (mem_range.mp hstart)
  · rw [h.visited, visitedFrom_ofRules]
  · rw [h.accepts, acceptsFrom_ofRules]

/-- Patterns that share an arena do not disturb each other. Every match of a pattern is met once, so
windows are fewer only where patterns of a rule match the same tokens. What is entered, listed and
met adds up over searches for single patterns, and from each start as many tokens are taken as for
the pattern that needs most of them. -/
theorem search_additive (rules : List (TextId × List Pattern)) (view : TokenView)
    (prescan : Bool) (key : TextId) :
    let result := (ofRules rules).search view prescan
    let patterns := rules.flatMap Prod.snd
    let alone (p : Pattern) : Effort := ((ofRules [(key, [p])]).search view prescan).2
    result.2.accepts = (matchings rules view).ncard ∧
      result.1.length ≤ result.2.accepts ∧
      (result.1.length = result.2.accepts ↔
        ∀ p ∈ placed rules, ∀ q ∈ placed rules, p.rule = q.rule → p.index ≠ q.index →
          ∀ start stop, start < stop → stop ≤ view.size →
            ¬(p.pattern.Matches view start stop ∧ q.pattern.Matches view start stop)) ∧
      result.2.accepts = (patterns.map fun p => (alone p).accepts).sum ∧
      result.2.visited = (patterns.map fun p => (alone p).visited).sum ∧
      result.2.active = (patterns.map fun p => (alone p).active).sum ∧
      result.2.total = (patterns.map fun p => (alone p).total).sum ∧
      (∀ p, (alone p).active = if p.Admitted view prescan then 1 else 0) ∧
      result.2.starts = (if result.2.active = 0 then 0 else view.size) ∧
      result.2.steps = ∑ start ∈ range view.size,
        ((patterns.filter fun p => p.Admitted view prescan).map
          (stepsAlone key · view start)).foldr max 0 := by
  intro result patterns alone
  have hresult : Counts patterns view prescan result.2 := counts_search rules view prescan
  have halone (p : Pattern) : Counts [p] view prescan (alone p) :=
    counts_search [(key, [p])] view prescan
  have haccepts : result.2.accepts = (matchings rules view).ncard := by
    rw [hresult.accepts, ncard_matchings]
  refine ⟨haccepts, ?_, ?_, ?_, ?_, ?_, ?_, ?_, hresult.starts, hresult.steps key⟩
  · rw [haccepts, length_search]
    exact Set.ncard_image_le (finite_matchings rules view)
  · rw [haccepts, length_search, ← injOn_windowOf_iff]
    exact Set.ncard_image_iff (finite_matchings rules view)
  · simp [(halone _).accepts, hresult.accepts]
  · simp [(halone _).visited, hresult.visited]
  · simp [(halone _).active, hresult.active]
  · simp [(halone _).total, hresult.total]
  · intro p
    simp [(halone p).active]

end Automaton

end SpanRules
