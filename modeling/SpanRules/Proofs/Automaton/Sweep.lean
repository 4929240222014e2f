import Mathlib.Algebra.BigOperators.Group.Finset.Basic
import Mathlib.Algebra.BigOperators.Intervals
import Mathlib.Data.Set.Card
import SpanRules.Proofs.Automaton.Frontier
import SpanRules.Proofs.Automaton.Window

/-! # What a search finds and counts

At every token the frontier shows the active states, those to which a path leads from an entry.
So the windows found are those of paths to accepting states, and each counter is a sum over
starts and positions of numbers of active states.
-/

namespace SpanRules

open Finset

namespace Automaton

/-- A search that was started before the token `start` has the state in its frontier before the
token `pos`. -/
def Active (a : Automaton) (view : TokenView) (entries : List Nat) (start pos state : Nat) :
    Prop :=
  Rests a.states state ∧ ∃ entry ∈ entries, a.Path view state pos entry start

/-- The number of active states. -/
noncomputable def activeCount (a : Automaton) (view : TokenView) (entries : List Nat)
    (start pos : Nat) : Nat :=
  Set.ncard {state | a.Active view entries start pos state}

/-- The number of active states that accept. -/
noncomputable def acceptCount (a : Automaton) (view : TokenView) (entries : List Nat)
    (start pos : Nat) : Nat :=
  Set.ncard {state | a.Active view entries start pos state ∧ (a.acceptedRule? state).isSome}

variable {a : Automaton} {view : TokenView} {entries : List Nat} {start pos state : Nat}

theorem rests_of_target? {next : Nat} (h : a.target? view pos state = some next) :
    Rests a.states state := by
  obtain ⟨condition, negated, c, hs, -⟩ := target?_eq_some_iff.mp h
  exact rests_of_consume hs

theorem acceptedRule?_eq_some_iff {rule : Nat} :
    a.acceptedRule? state = some rule ↔ ∃ index, a.states[state]? = some (.accept rule index) := by
  unfold acceptedRule?
  split
  · rename_i r i hs
    simp [hs]
  · rename_i hs
    simp only [reduceCtorEq, false_iff, not_exists]
    exact fun index => hs rule index

/-- A state is active behind a token when the token leads there from an active state. -/
theorem active_succ_iff (hpos : start ≤ pos) :
    a.Active view entries start (pos + 1) state ↔ Rests a.states state ∧
      ∃ last, a.Active view entries start pos last ∧
        ∃ next, a.target? view pos last = some next ∧ Closure a.states next state := by
  refine and_congr_right fun _ => ?_
  constructor
  · rintro ⟨entry, hentry, hpath⟩
    obtain ⟨last, next, hlast, ht, hclosure⟩ := (path_succ_iff hpos).mp hpath
    exact ⟨last, ⟨rests_of_target? ht, entry, hentry, hlast⟩, next, ht, hclosure⟩
  · rintro ⟨last, ⟨-, entry, hentry, hlast⟩, next, ht, hclosure⟩
    exact ⟨entry, hentry, (path_succ_iff hpos).mpr ⟨last, next, hlast, ht, hclosure⟩⟩

theorem active_self_iff :
    a.Active view entries start start state ↔ Rests a.states state ∧
      ∃ entry ∈ entries, Closure a.states entry state := by
  simp only [Active, path_self_iff]

/-- Once no state is active, none will be. -/
theorem not_active_of_le {later : Nat} (hpos : start ≤ pos)
    (h : ∀ state, ¬ a.Active view entries start pos state) (hlater : pos ≤ later) (state : Nat) :
    ¬ a.Active view entries start later state := by
  induction later, hlater using Nat.le_induction generalizing state with
  | base => exact h state
  | succ later hle ih =>
      rw [active_succ_iff (hpos.trans hle)]
      rintro ⟨-, last, hlast, -⟩
      exact ih last hlast

theorem finite_active : {state | a.Active view entries start pos state}.Finite := by
  refine (Set.finite_lt_nat a.states.size).subset fun state hstate => ?_
  obtain ⟨⟨s, hs, -⟩, -⟩ := hstate
  exact (Array.getElem?_eq_some_iff.mp hs).1

theorem activeCount_eq_zero_iff :
    a.activeCount view entries start pos = 0 ↔
      ∀ state, ¬ a.Active view entries start pos state := by
  rw [activeCount, Set.ncard_eq_zero finite_active, Set.eq_empty_iff_forall_notMem]
  rfl

theorem acceptCount_eq_zero (h : a.activeCount view entries start pos = 0) :
    a.acceptCount view entries start pos = 0 := by
  rw [activeCount_eq_zero_iff] at h
  simp [acceptCount, h]

end Automaton

/-! ## The frontier -/

/-- A new generation of the frontier can be begun. -/
structure Frontier.Ready (f : Frontier) (a : Automaton) : Prop where
  size : f.stamps.size = a.states.size
  stamped : f.WellStamped

/-- The frontier lists the active states, each once. -/
structure Frontier.Tracks (f : Frontier) (a : Automaton) (view : TokenView) (entries : List Nat)
    (start pos : Nat) : Prop extends f.Ready a where
  nodup : f.members.Nodup
  members {state : Nat} : state ∈ f.members ↔ a.Active view entries start pos state

namespace Automaton

variable {a : Automaton} {view : TokenView} {entries : List Nat} {start pos : Nat} {f : Frontier}

theorem tracks_start (h : f.Ready a) :
    (f.renew.addAll a.states entries).Tracks a view entries start start := by
  have hshows := (Frontier.shows_renew h.stamped h.size).addAll entries
  refine ⟨⟨hshows.size, hshows.stamped⟩, hshows.nodup, fun {state} => ?_⟩
  rw [hshows.mem_members, active_self_iff, List.nil_append]

theorem tracks_step (h : f.Tracks a view entries start pos) (hpos : start ≤ pos) :
    (a.step view pos f).Tracks a view entries start (pos + 1) := by
  have hshows := (Frontier.shows_renew h.stamped h.size).addAll
    (f.members.filterMap (a.target? view pos))
  refine ⟨⟨hshows.size, hshows.stamped⟩, hshows.nodup, fun {state} => ?_⟩
  rw [step, hshows.mem_members, active_succ_iff hpos, List.nil_append]
  simp only [List.mem_filterMap, h.members]
  refine and_congr_right fun _ => ?_
  constructor
  · rintro ⟨next, ⟨last, hlast, ht⟩, hclosure⟩
    exact ⟨last, hlast, next, ht, hclosure⟩
  · rintro ⟨last, hlast, next, ht, hclosure⟩
    exact ⟨next, ⟨last, hlast, ht⟩, hclosure⟩

theorem length_members (h : f.Tracks a view entries start pos) :
    f.members.length = a.activeCount view entries start pos := by
  rw [activeCount, ← List.toFinset_card_of_nodup h.nodup, ← Set.ncard_coe_finset]
  congr 1
  ext state
  simp [h.members]

theorem length_accepted (h : f.Tracks a view entries start pos) :
    (a.accepted start pos f).length = a.acceptCount view entries start pos := by
  rw [accepted, List.length_map, List.length_filterMap_eq_countP, List.countP_eq_length_filter,
    ← List.toFinset_card_of_nodup (h.nodup.filter _), acceptCount, ← Set.ncard_coe_finset]
  congr 1
  ext state
  simp [h.members]

theorem mem_accepted (h : f.Tracks a view entries start pos) {w : Window} :
    w ∈ a.accepted start pos f ↔ w.start = start ∧ w.stop = pos ∧
      ∃ state, a.Active view entries start pos state ∧ a.acceptedRule? state = some w.rule := by
  obtain ⟨s, e, r⟩ := w
  simp only [accepted, List.mem_map, List.mem_filterMap, h.members, Window.mk.injEq]
  constructor
  · intro hw
    obtain ⟨rule, ⟨state, hactive, hrule⟩, rfl, rfl, rfl⟩ := hw
    exact ⟨rfl, rfl, state, hactive, hrule⟩
  · intro hw
    obtain ⟨rfl, rfl, state, hactive, hrule⟩ := hw
    exact ⟨r, ⟨state, hactive, hrule⟩, rfl, rfl, rfl⟩

/-! ## Progress -/

/-- The window is that of a path from an entry before its start to an accepting state. -/
def Accepts (a : Automaton) (view : TokenView) (entries : List Nat) (w : Window) : Prop :=
  ∃ state, a.Active view entries w.start w.stop state ∧ a.acceptedRule? state = some w.rule

/-- The search goes from `p` to `q`, can go on from there, has found the given windows and has
counted the given numbers. -/
structure Gains (a : Automaton) (p q : Progress) (windows : Window → Prop)
    (starts steps visited accepts : Nat) : Prop where
  ready : q.frontier.Ready a
  found {w : Window} : w ∈ q.found ↔ w ∈ p.found ∨ windows w
  decreasing : Window.Decreasing p.found → Window.Decreasing q.found
  active : q.effort.active = p.effort.active
  total : q.effort.total = p.effort.total
  starts : q.effort.starts = p.effort.starts + starts
  steps : q.effort.steps = p.effort.steps + steps
  visited : q.effort.visited = p.effort.visited + visited
  accepts : q.effort.accepts = p.effort.accepts + accepts

section Gains

variable {p q r : Progress} {windows later : Window → Prop} {b b' s s' v v' c c' : Nat}

theorem Gains.trans (h : a.Gains p q windows b s v c) (h' : a.Gains q r later b' s' v' c') :
    a.Gains p r (fun w => windows w ∨ later w) (b + b') (s + s') (v + v') (c + c') where
  ready := h'.ready
  found {w} := by rw [h'.found, h.found, or_assoc]
  decreasing := h'.decreasing ∘ h.decreasing
  active := h'.active.trans h.active
  total := h'.total.trans h.total
  starts := by rw [h'.starts, h.starts, Nat.add_assoc]
  steps := by rw [h'.steps, h.steps, Nat.add_assoc]
  visited := by rw [h'.visited, h.visited, Nat.add_assoc]
  accepts := by rw [h'.accepts, h.accepts, Nat.add_assoc]

theorem Gains.congr (h : a.Gains p q windows b s v c) (hwindows : ∀ w, windows w ↔ later w)
    (hb : b = b') (hs : s = s') (hv : v = v') (hc : c = c') :
    a.Gains p q later b' s' v' c' := by
  obtain rfl : windows = later := funext fun w => propext (hwindows w)
  subst hb hs hv hc
  exact h

end Gains

section Moves

variable {left : Nat} {p : Progress}

@[simp] theorem frontier_note : (a.note start pos p).frontier = p.frontier := by
  unfold note
  split <;> rfl

theorem gains_note (h : p.frontier.Tracks a view entries start pos) :
    a.Gains p (a.note start pos p)
      (fun w => w.start = start ∧ w.stop = pos ∧ start < w.stop ∧ a.Accepts view entries w) 0 0 0
      (if start < pos then a.acceptCount view entries start pos else 0) := by
  unfold note
  split
  · rename_i hlt
    refine ⟨h.toReady, fun {w} => ?_, .foldl_insert, rfl, rfl, rfl, rfl, rfl, ?_⟩
    · rw [Window.mem_foldl_insert, mem_accepted h]
      refine or_congr_right ⟨?_, ?_⟩
      · intro hw
        obtain ⟨rfl, rfl, hstate⟩ := hw
        exact ⟨rfl, rfl, hlt, hstate⟩
      · intro hw
        obtain ⟨rfl, rfl, -, hstate⟩ := hw
        exact ⟨rfl, rfl, hstate⟩
    · exact congrArg (p.effort.accepts + ·) (length_accepted h)
  · rename_i hge
    refine ⟨h.toReady, fun {w} => ?_, id, rfl, rfl, rfl, rfl, rfl, rfl⟩
    refine (or_iff_left ?_).symm
    intro hw
    obtain ⟨rfl, rfl, hlt, -⟩ := hw
    exact hge hlt

theorem gains_advance (h : p.frontier.Tracks a view entries start pos) (hpos : start ≤ pos) :
    a.Gains p (a.advance view pos p) (fun _ => False) 0 1
      (a.activeCount view entries start (pos + 1)) 0 where
  ready := (tracks_step h hpos).toReady
  found := by simp [advance]
  decreasing := id
  active := rfl
  total := rfl
  starts := rfl
  steps := rfl
  visited := congrArg (p.effort.visited + ·) (length_members (tracks_step h hpos))
  accepts := rfl

/-- Going on from a position finds the windows that stop there or later. It takes a token wherever
states are active, and counts the states behind every token taken. -/
theorem gains_sweep (h : p.frontier.Tracks a view entries start pos) (hpos : start ≤ pos) :
    a.Gains p (a.sweep view start pos left p)
      (fun w => w.start = start ∧ pos ≤ w.stop ∧ w.stop ≤ pos + left ∧ start < w.stop ∧
        a.Accepts view entries w)
      0
      (∑ i ∈ Ico pos (pos + left), if a.activeCount view entries start i = 0 then 0 else 1)
      (∑ i ∈ Ico (pos + 1) (pos + left + 1), a.activeCount view entries start i)
      (∑ i ∈ Ico pos (pos + left + 1),
        if start < i then a.acceptCount view entries start i else 0) := by
  induction left generalizing pos p with
  | zero =>
      refine (gains_note h).congr (fun w => ?_) rfl (by simp) (by simp) (by simp)
      constructor
      · intro hw
        obtain ⟨hstart, rfl, hrest⟩ := hw
        exact ⟨hstart, le_rfl, le_rfl, hrest⟩
      · intro hw
        obtain ⟨hstart, hlow, hhigh, hrest⟩ := hw
        exact ⟨hstart, by omega, hrest⟩
  | succ left ih =>
      have hnote := gains_note h
      have htracks : (a.note start pos p).frontier.Tracks a view entries start pos := by
        rwa [frontier_note]
      have hcount := length_members htracks
      rw [sweep]
      split
      · rename_i hempty
        have hzero : a.activeCount view entries start pos = 0 := by
          rw [← hcount, List.isEmpty_iff.mp hempty, List.length_nil]
        have hlater {i : Nat} (hi : pos ≤ i) (state : Nat) :
            ¬ a.Active view entries start i state :=
          not_active_of_le hpos (activeCount_eq_zero_iff.mp hzero) hi state
        have hcounts {i : Nat} (hi : pos ≤ i) : a.activeCount view entries start i = 0 :=
          activeCount_eq_zero_iff.mpr (hlater hi)
        refine hnote.congr (fun w => ?_) rfl ?_ ?_ ?_
        · constructor
          · intro hw
            obtain ⟨rfl, rfl, -, state, hactive, -⟩ := hw
            exact absurd hactive (hlater le_rfl state)
          · intro hw
            obtain ⟨rfl, hlow, -, -, state, hactive, -⟩ := hw
            exact absurd hactive (hlater hlow state)
        · refine (sum_eq_zero fun i hi => ?_).symm
          rw [if_pos (hcounts (mem_Ico.mp hi).1)]
        · refine (sum_eq_zero fun i hi => ?_).symm
          exact hcounts (Nat.le_of_succ_le (mem_Ico.mp hi).1)
        · have haccept {i : Nat} (hi : pos ≤ i) :
              (if start < i then a.acceptCount view entries start i else 0) = 0 := by
            rw [acceptCount_eq_zero (hcounts hi), ite_self]
          rw [haccept le_rfl]
          exact (sum_eq_zero fun i hi => haccept (mem_Ico.mp hi).1).symm
      · rename_i hactive
        have hpositive : a.activeCount view entries start pos ≠ 0 := by
          rw [← hcount]
          simpa using hactive
        have hrest := ih (p := a.advance view pos (a.note start pos p))
          (tracks_step htracks hpos) (Nat.le_succ_of_le hpos)
        refine ((hnote.trans (gains_advance htracks hpos)).trans hrest).congr
          (fun w => ?_) rfl ?_ ?_ ?_
        · rw [or_false]
          constructor
          · rintro (⟨hstart, rfl, hw⟩ | ⟨hstart, hlow, hhigh, hw⟩)
            · exact ⟨hstart, le_rfl, by omega, hw⟩
            · exact ⟨hstart, by omega, by omega, hw⟩
          · intro hw
            obtain ⟨hstart, hlow, hhigh, hw⟩ := hw
            rcases hlow.eq_or_lt with rfl | hlow
            · exact Or.inl ⟨hstart, rfl, hw⟩
            · exact Or.inr ⟨hstart, hlow, by omega, hw⟩
        · rw [sum_eq_sum_Ico_succ_bot (by omega : pos < pos + (left + 1)), if_neg hpositive,
            Nat.add_right_comm pos 1 left, Nat.add_assoc pos left 1, Nat.zero_add]
        · rw [sum_eq_sum_Ico_succ_bot (by omega : pos + 1 < pos + (left + 1) + 1),
            Nat.add_right_comm pos 1 left, Nat.add_assoc pos left 1, Nat.zero_add]
        · rw [sum_eq_sum_Ico_succ_bot (by omega : pos < pos + (left + 1) + 1),
            Nat.add_right_comm pos 1 left, Nat.add_assoc pos left 1, Nat.add_zero]

end Moves

/-! ## The whole search -/

/-- The tokens taken from a start. -/
noncomputable def stepsFrom (a : Automaton) (view : TokenView) (entries : List Nat)
    (start : Nat) : Nat :=
  ∑ pos ∈ Ico start view.size, if a.activeCount view entries start pos = 0 then 0 else 1

/-- The states listed from a start. -/
noncomputable def visitedFrom (a : Automaton) (view : TokenView) (entries : List Nat)
    (start : Nat) : Nat :=
  ∑ pos ∈ Ico start (view.size + 1), a.activeCount view entries start pos

/-- The accepting states met behind tokens from a start. -/
noncomputable def acceptsFrom (a : Automaton) (view : TokenView) (entries : List Nat)
    (start : Nat) : Nat :=
  ∑ stop ∈ Ico (start + 1) (view.size + 1), a.acceptCount view entries start stop

theorem gains_searchFrom {p : Progress} (h : p.frontier.Ready a) (hstart : start < view.size) :
    a.Gains p (a.searchFrom view entries p start)
      (fun w => w.start = start ∧ w.start < w.stop ∧ w.stop ≤ view.size ∧
        a.Accepts view entries w)
      1 (a.stepsFrom view entries start) (a.visitedFrom view entries start)
      (a.acceptsFrom view entries start) := by
  have htracks : (p.frontier.renew.addAll a.states entries).Tracks a view entries start start :=
    tracks_start h
  let first : Progress :=
    { p with
      frontier := p.frontier.renew.addAll a.states entries
      effort := { p.effort with
        starts := p.effort.starts + 1
        visited := p.effort.visited + (p.frontier.renew.addAll a.states entries).members.length } }
  have hfirst : a.Gains p first (fun _ => False) 1 0
      (a.activeCount view entries start start) 0 :=
    ⟨htracks.toReady, by simp [first], id, rfl, rfl, rfl, rfl,
      congrArg (p.effort.visited + ·) (length_members htracks), rfl⟩
  have hsweep :=
    @gains_sweep a view entries start start (view.size - start) first htracks le_rfl
  refine (hfirst.trans hsweep).congr (fun w => ?_) rfl ?_ ?_ ?_
  all_goals rw [Nat.add_sub_cancel' hstart.le]
  · rw [false_or]
    constructor
    · intro hw
      obtain ⟨hs, -, hstop, hlt, haccepts⟩ := hw
      exact ⟨hs, hs ▸ hlt, hstop, haccepts⟩
    · intro hw
      obtain ⟨hs, hlt, hstop, haccepts⟩ := hw
      exact ⟨hs, by omega, hstop, hs ▸ hlt, haccepts⟩
  · rw [stepsFrom, Nat.zero_add]
  · rw [visitedFrom, sum_eq_sum_Ico_succ_bot (by omega : start < view.size + 1)]
  · rw [acceptsFrom, sum_eq_sum_Ico_succ_bot (by omega : start < view.size + 1),
      if_neg (Nat.lt_irrefl start), Nat.zero_add, Nat.zero_add]
    refine sum_congr rfl fun stop hstop => ?_
    exact if_pos (mem_Ico.mp hstop).1

theorem gains_searchAll {p : Progress} (h : p.frontier.Ready a) {n : Nat} (hn : n ≤ view.size) :
    a.Gains p ((List.range n).foldl (a.searchFrom view entries) p)
      (fun w => w.start < n ∧ w.start < w.stop ∧ w.stop ≤ view.size ∧
        a.Accepts view entries w)
      n (∑ start ∈ range n, a.stepsFrom view entries start)
      (∑ start ∈ range n, a.visitedFrom view entries start)
      (∑ start ∈ range n, a.acceptsFrom view entries start) := by
  induction n with
  | zero => exact ⟨h, by simp, id, rfl, rfl, rfl, rfl, rfl, rfl⟩
  | succ n ih =>
      have hold := ih (Nat.le_of_succ_le hn)
      rw [List.range_succ, List.foldl_append, List.foldl_cons, List.foldl_nil]
      refine (hold.trans (gains_searchFrom hold.ready hn)).congr (fun w => ?_) rfl
        (sum_range_succ _ _).symm (sum_range_succ _ _).symm (sum_range_succ _ _).symm
      rw [← or_and_right, Nat.lt_succ_iff_lt_or_eq]

/-- The states in which the branches to enter start. -/
def activeEntries (a : Automaton) (view : TokenView) (prescan : Bool) : List Nat :=
  (a.activeBranches view prescan).map (·.entry)

theorem ready_start (a : Automaton) : (Frontier.start a.states.size).Ready a :=
  ⟨by simp [Frontier.start], Frontier.wellStamped_start _⟩

theorem not_active_nil {state : Nat} : ¬ a.Active view [] start pos state := by
  simp [Active]

theorem activeCount_nil : a.activeCount view [] start pos = 0 :=
  activeCount_eq_zero_iff.mpr fun _ => not_active_nil

/-- What a search from the given entries finds and counts. -/
structure Searched (a : Automaton) (view : TokenView) (entries : List Nat)
    (result : List Window × Effort) : Prop where
  windows {w : Window} : w ∈ result.1 ↔
    w.start < w.stop ∧ w.stop ≤ view.size ∧ a.Accepts view entries w
  increasing : result.1.Pairwise fun v w => v.lt w = true
  active : result.2.active = entries.length
  total : result.2.total = a.branches.length
  starts : result.2.starts = if entries = [] then 0 else view.size
  steps : result.2.steps = ∑ start ∈ range view.size, a.stepsFrom view entries start
  visited : result.2.visited = ∑ start ∈ range view.size, a.visitedFrom view entries start
  accepts : result.2.accepts = ∑ start ∈ range view.size, a.acceptsFrom view entries start

/-- Without entries nothing is active, so nothing is found and nothing is counted. -/
theorem searched_nil (a : Automaton) (view : TokenView) :
    a.Searched view [] ([], { active := 0, total := a.branches.length }) where
  windows := by simp [Accepts, not_active_nil]
  increasing := .nil
  active := rfl
  total := rfl
  starts := rfl
  steps := by simp [stepsFrom, activeCount_nil]
  visited := by simp [visitedFrom, activeCount_nil]
  accepts := by simp [acceptsFrom, acceptCount_eq_zero activeCount_nil]

theorem searched_of_ne_nil (a : Automaton) (view : TokenView) (hne : entries ≠ []) :
    let effort : Effort := { active := entries.length, total := a.branches.length }
    let p := (List.range view.size).foldl (a.searchFrom view entries)
      { frontier := .start a.states.size, effort }
    a.Searched view entries (p.found.reverse, p.effort) := by
  intro effort p
  have hall := @gains_searchAll a view entries { frontier := .start a.states.size, effort }
    (ready_start a) view.size le_rfl
  refine ⟨fun {w} => ?_, ?_, hall.active, hall.total, ?_, ?_, ?_, ?_⟩
  · rw [List.mem_reverse, hall.found]
    simp only [List.not_mem_nil, false_or]
    constructor
    · intro hw
      exact hw.2
    · intro hw
      exact ⟨hw.1.trans_le hw.2.1, hw⟩
  · exact List.pairwise_reverse.mpr (hall.decreasing .nil)
  · rw [if_neg hne]
    exact hall.starts.trans (Nat.zero_add _)
  · exact hall.steps.trans (Nat.zero_add _)
  · exact hall.visited.trans (Nat.zero_add _)
  · exact hall.accepts.trans (Nat.zero_add _)

theorem searched_search (a : Automaton) (view : TokenView) (prescan : Bool) :
    a.Searched view (a.activeEntries view prescan) (a.search view prescan) := by
  unfold search activeEntries
  generalize (a.activeBranches view prescan).map (·.entry) = entries
  cases entries with
  | nil => exact searched_nil a view
  | cons entry entries => exact searched_of_ne_nil a view (List.cons_ne_nil entry entries)

end Automaton

end SpanRules
