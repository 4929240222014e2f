import Mathlib.Algebra.Order.BigOperators.Group.Finset
import Mathlib.Data.List.Sort
import SpanRules.Proofs.Automaton.Layout
import SpanRules.Proofs.Automaton.Sweep
import SpanRules.Proofs.Pattern.Literals

/-! # The pre-scan changes no result

A branch that the pre-scan leaves out has a pattern with a text that does not occur, so no path
leads from its entry to an accepting state. What remains of the search is the same, and less.
-/

namespace SpanRules

namespace Prescan

variable {view : TokenView} {branches : List Branch} {b : Branch}

theorem mem_wanted {attr : Attribute} :
    attr ∈ wanted branches ↔ ∃ b ∈ branches, ∃ id, (attr, id) ∈ b.required := by
  simp [wanted]

theorem mem_present {attr : Attribute} {id : TextId} :
    (attr, id) ∈ (scan view branches).present ↔
      attr ∈ wanted branches ∧ ∃ i < view.size, view.attr i attr = .text id := by
  simp only [scan, textsAt, List.mem_flatMap, List.mem_range, List.mem_filterMap,
    Option.map_eq_some_iff, AttributeValue.textId?_eq_some_iff, Prod.mk.injEq]
  constructor
  · rintro ⟨i, hi, a, ha, x, hx, rfl, rfl⟩
    exact ⟨ha, i, hi, hx⟩
  · rintro ⟨ha, i, hi, hx⟩
    exact ⟨i, hi, attr, ha, id, hx, rfl, rfl⟩

/-- The scan allows a branch when everything it requires occurs. -/
theorem allows_iff (hb : b ∈ branches) :
    (scan view branches).allows b = true ↔
      ∀ literal ∈ b.required, ∃ i < view.size, view.attr i literal.1 = .text literal.2 := by
  simp only [allows, List.all_eq_true, decide_eq_true_eq]
  refine forall₂_congr fun literal hliteral => ?_
  rw [show literal = (literal.1, literal.2) from rfl, mem_present]
  exact and_iff_right (mem_wanted.mpr ⟨b, hb, literal.2, hliteral⟩)

end Prescan

/-! ## Branches and patterns -/

namespace Automaton

variable {rules : List (TextId × List Pattern)} {view : TokenView} {start pos state : Nat}

theorem exists_placed {b : Branch} (hb : b ∈ (ofRules rules).branches) :
    ∃ p ∈ placed rules, (ofRules rules).Recognizes b p := by
  obtain ⟨i, hi, rfl⟩ := List.getElem_of_mem hb
  have hlength := (branches_ofRules rules).length_eq
  exact ⟨_, List.getElem_mem _, (branches_ofRules rules).get hi (hlength ▸ hi)⟩

theorem exists_branch {p : Placed} (hp : p ∈ placed rules) :
    ∃ b ∈ (ofRules rules).branches, (ofRules rules).Recognizes b p := by
  obtain ⟨i, hi, rfl⟩ := List.getElem_of_mem hp
  have hlength := (branches_ofRules rules).length_eq
  exact ⟨_, List.getElem_mem _, (branches_ofRules rules).get (hlength ▸ hi) hi⟩

theorem map_pattern_placed (rules : List (TextId × List Pattern)) :
    (placed rules).map Placed.pattern = rules.flatMap Prod.snd := by
  have hrule (r : (TextId × List Pattern) × Nat) :
      (r.1.2.zipIdx.map fun p => (⟨r.2, p.2, p.1⟩ : Placed)).map Placed.pattern = r.1.2 := by
    rw [List.map_map]
    exact List.zipIdx_map_fst 0 r.1.2
  simp only [placed, List.map_flatMap, hrule]
  rw [← List.flatMap_map, List.zipIdx_map_fst]

theorem map_required_branches (rules : List (TextId × List Pattern)) :
    (ofRules rules).branches.map (·.required) =
      (rules.flatMap Prod.snd).map Pattern.required := by
  rw [← map_pattern_placed, List.map_map, ← List.forall₂_eq_eq_eq, List.forall₂_map_left_iff,
    List.forall₂_map_right_iff]
  exact (branches_ofRules rules).imp fun b p hb => hb.required

/-- The scan keeps as many branches as there are patterns whose texts all occur. -/
theorem length_activeEntries (rules : List (TextId × List Pattern)) (view : TokenView) :
    ((ofRules rules).activeEntries view true).length =
      (rules.flatMap Prod.snd).countP fun p => decide (p.LiteralsOccur view) := by
  let occurs (literals : List (Attribute × TextId)) : Bool :=
    decide (∀ literal ∈ literals, ∃ i < view.size, view.attr i literal.1 = .text literal.2)
  have hbranches : (ofRules rules).branches.countP
      (Prescan.scan view (ofRules rules).branches).allows =
        (ofRules rules).branches.countP (occurs ∘ (·.required)) := by
    refine List.countP_congr fun b hb => ?_
    rw [Prescan.allows_iff hb]
    exact decide_eq_true_iff.symm
  have hpatterns : (rules.flatMap Prod.snd).countP (fun p => decide (p.LiteralsOccur view)) =
      (rules.flatMap Prod.snd).countP (occurs ∘ Pattern.required) := by
    refine List.countP_congr fun p _ => ?_
    rw [decide_eq_true_iff, Pattern.literalsOccur_iff]
    exact decide_eq_true_iff.symm
  rw [activeEntries, List.length_map, activeBranches, if_pos rfl,
    ← List.countP_eq_length_filter, hbranches, hpatterns, ← List.countP_map, ← List.countP_map,
    map_required_branches]

theorem mem_branches_of_mem_activeBranches {a : Automaton} {prescan : Bool} {b : Branch}
    (hb : b ∈ a.activeBranches view prescan) : b ∈ a.branches := by
  unfold activeBranches at hb
  split at hb
  · exact List.mem_of_mem_filter hb
  · exact hb

/-- A branch with a match in the tokens is entered, whether they are scanned or not. -/
theorem mem_activeBranches {b : Branch} {p : Placed} {stop : Nat} (prescan : Bool)
    (hb : b ∈ (ofRules rules).branches) (hbranch : (ofRules rules).Recognizes b p)
    (hmatches : p.pattern.Matches view start stop) (hstop : stop ≤ view.size) :
    b ∈ (ofRules rules).activeBranches view prescan := by
  cases prescan with
  | false => exact hb
  | true =>
      have hliterals := Pattern.literalsOccur_iff.mp (hmatches.literalsOccur hstop)
      rw [← hbranch.required] at hliterals
      exact List.mem_filter.mpr ⟨hb, (Prescan.allows_iff hb).mpr hliterals⟩

/-! ## Accepting states -/

/-- An accepting state is active when a path leads to it from any branch. The scan leaves no such
branch out: the path takes a match, so the texts of the pattern occur. -/
theorem active_accept_iff {rule index : Nat} (prescan : Bool) (hpos : pos ≤ view.size)
    (hstate : (ofRules rules).states[state]? = some (.accept rule index)) :
    (ofRules rules).Active view ((ofRules rules).activeEntries view prescan) start pos state ↔
      ∃ b ∈ (ofRules rules).branches, (ofRules rules).Path view state pos b.entry start := by
  constructor
  · rintro ⟨-, entry, hentry, hpath⟩
    obtain ⟨b, hb, rfl⟩ := List.mem_map.mp hentry
    exact ⟨b, mem_branches_of_mem_activeBranches hb, hpath⟩
  · rintro ⟨b, hb, hpath⟩
    obtain ⟨p, -, hbranch⟩ := exists_placed hb
    obtain ⟨home, -, haccepts⟩ := hbranch.accepts
    obtain ⟨-, hmatches⟩ := (haccepts _ (.refl _) _ _ _ _ _ _ hstate).mp hpath
    have hb := mem_activeBranches prescan hb hbranch hmatches hpos
    exact ⟨⟨_, hstate, by simp⟩, b.entry, List.mem_map_of_mem hb, hpath⟩

theorem acceptCount_activeEntries (prescan : Bool) (hpos : pos ≤ view.size) :
    (ofRules rules).acceptCount view ((ofRules rules).activeEntries view prescan) start pos =
      (ofRules rules).acceptCount view ((ofRules rules).activeEntries view false) start pos := by
  unfold acceptCount
  congr 1
  ext state
  refine and_congr_left fun haccepts => ?_
  obtain ⟨rule, hrule⟩ := Option.isSome_iff_exists.mp haccepts
  obtain ⟨index, hstate⟩ := acceptedRule?_eq_some_iff.mp hrule
  rw [active_accept_iff prescan hpos hstate, active_accept_iff false hpos hstate]

/-- A search finds the windows that some pattern of the rule matches, whether the tokens are
scanned first or not. -/
theorem mem_search {prescan : Bool} {w : Window} :
    w ∈ ((ofRules rules).search view prescan).1 ↔ w.start < w.stop ∧ w.stop ≤ view.size ∧
      ∃ p ∈ placed rules, p.rule = w.rule ∧ p.pattern.Matches view w.start w.stop := by
  rw [(searched_search (ofRules rules) view prescan).windows]
  refine and_congr_right fun _ => and_congr_right fun hstop => ?_
  constructor
  · rintro ⟨state, hactive, haccepts⟩
    obtain ⟨index, hstate⟩ := acceptedRule?_eq_some_iff.mp haccepts
    obtain ⟨b, hb, hpath⟩ := (active_accept_iff prescan hstop hstate).mp hactive
    obtain ⟨p, hp, hbranch⟩ := exists_placed hb
    obtain ⟨home, hhome, hreach⟩ := hbranch.accepts
    obtain ⟨rfl, hmatches⟩ := (hreach _ (.refl _) _ _ _ _ _ _ hstate).mp hpath
    rw [hhome, Option.some.injEq, State.accept.injEq] at hstate
    exact ⟨p, hp, hstate.1, hmatches⟩
  · rintro ⟨p, hp, hrule, hmatches⟩
    obtain ⟨b, hb, hbranch⟩ := exists_branch hp
    obtain ⟨home, hhome, hreach⟩ := hbranch.accepts
    have hpath := (hreach _ (.refl _) _ _ _ _ _ _ hhome).mpr ⟨rfl, hmatches⟩
    refine ⟨home, (active_accept_iff prescan hstop hhome).mpr ⟨b, hb, hpath⟩, ?_⟩
    exact acceptedRule?_eq_some_iff.mpr ⟨p.index, hrule ▸ hhome⟩

/-! ## Less work -/

section Less

variable {a : Automaton} {entries more : List Nat}

theorem activeCount_mono (h : entries ⊆ more) :
    a.activeCount view entries start pos ≤ a.activeCount view more start pos := by
  refine Set.ncard_le_ncard ?_ finite_active
  rintro state ⟨hrests, entry, hentry, hpath⟩
  exact ⟨hrests, entry, h hentry, hpath⟩

theorem stepsFrom_mono (h : entries ⊆ more) :
    a.stepsFrom view entries start ≤ a.stepsFrom view more start := by
  refine Finset.sum_le_sum fun pos _ => ?_
  have hcount : a.activeCount view entries start pos ≤ a.activeCount view more start pos :=
    activeCount_mono h
  split
  · exact Nat.zero_le _
  · rw [if_neg (by omega)]

theorem visitedFrom_mono (h : entries ⊆ more) :
    a.visitedFrom view entries start ≤ a.visitedFrom view more start :=
  Finset.sum_le_sum fun _ _ => activeCount_mono h

theorem activeEntries_subset (a : Automaton) (view : TokenView) (prescan : Bool) :
    a.activeEntries view prescan ⊆ a.activeEntries view false :=
  List.map_subset _ fun _ hb => mem_branches_of_mem_activeBranches hb

end Less

/-- The pre-scan changes neither the windows nor the number of accepting states met, and the
search does at most the work it does without. The branches entered are as many as the patterns
whose texts all occur. -/
theorem search_prescan (rules : List (TextId × List Pattern)) (view : TokenView) :
    let scanned := (ofRules rules).search view true
    let plain := (ofRules rules).search view false
    scanned.1 = plain.1 ∧
      scanned.2.accepts = plain.2.accepts ∧
      scanned.2.starts ≤ plain.2.starts ∧
      scanned.2.steps ≤ plain.2.steps ∧
      scanned.2.visited ≤ plain.2.visited ∧
      scanned.2.total = plain.2.total ∧
      scanned.2.active =
        ((rules.flatMap Prod.snd).countP fun p => decide (p.LiteralsOccur view)) ∧
      plain.2.active = plain.2.total := by
  intro scanned plain
  have hscanned := searched_search (ofRules rules) view true
  have hplain := searched_search (ofRules rules) view false
  have hentries := activeEntries_subset (ofRules rules) view true
  refine ⟨?_, ?_, ?_, ?_, ?_, hscanned.total.trans hplain.total.symm, ?_, ?_⟩
  · refine hscanned.increasing.eq_of_mem_iff hplain.increasing fun w => ?_
    rw [mem_search, mem_search]
  · rw [hscanned.accepts, hplain.accepts]
    refine Finset.sum_congr rfl fun start _ => Finset.sum_congr rfl fun stop hstop => ?_
    exact acceptCount_activeEntries true (Nat.le_of_lt_succ (Finset.mem_Ico.mp hstop).2)
  · rw [hscanned.starts, hplain.starts]
    split
    · exact Nat.zero_le _
    · rename_i hne
      have hmore : (ofRules rules).activeEntries view false ≠ [] := by
        intro hnil
        rw [hnil] at hentries
        exact hne (List.subset_nil.mp hentries)
      rw [if_neg hmore]
  · rw [hscanned.steps, hplain.steps]
    exact Finset.sum_le_sum fun start _ => stepsFrom_mono hentries
  · rw [hscanned.visited, hplain.visited]
    exact Finset.sum_le_sum fun start _ => visitedFrom_mono hentries
  · rw [hscanned.active, length_activeEntries]
  · rw [hplain.active, hplain.total]
    exact List.length_map _

end Automaton

end SpanRules
