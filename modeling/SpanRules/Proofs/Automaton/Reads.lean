import SpanRules.Proofs.Automaton.Layout
import SpanRules.Proofs.Pattern.Literals

/-! # What a search reads

A search asks the tokens for attributes that conditions check or that branches require, and for
no others. So it cannot tell apart tokens that have the same values of these.
-/

namespace SpanRules

/-- There are as many tokens, and they have the same values of the given attributes. -/
structure TokenView.AgreesOn (view other : TokenView) (named : Attribute → Prop) : Prop where
  size : view.size = other.size
  attr {a : Attribute} (ha : named a) {i : Nat} (hi : i < view.size) :
    view.attr i a = other.attr i a

/-- A check of the pattern is about the attribute. -/
def Pattern.Names (p : Pattern) (a : Attribute) : Prop :=
  ∃ slot ∈ p.slots, ∃ value, (a, value) ∈ slot.condition.checks

namespace Automaton

/-- All attributes that are checked or required are among the given ones. -/
structure Reads (a : Automaton) (named : Attribute → Prop) : Prop where
  conditions {c : Condition} : c ∈ a.conditions → ∀ check ∈ c.checks, named check.1
  required {b : Branch} : b ∈ a.branches → ∀ literal ∈ b.required, named literal.1

variable {a : Automaton} {named : Attribute → Prop} {view other : TokenView}

/-! ## The attributes that an automaton reads -/

theorem conditions_pushSlot (a : Automaton) (slot : Slot) (next : Nat) :
    (a.pushSlot slot next).1.conditions = a.conditions.push slot.condition := by
  unfold pushSlot
  split <;> rfl

theorem Reads.pushSlot (h : a.Reads named) {slot : Slot}
    (hslot : ∀ check ∈ slot.condition.checks, named check.1) (next : Nat) :
    (a.pushSlot slot next).1.Reads named := by
  constructor
  · intro c hc
    rw [conditions_pushSlot, Array.mem_push] at hc
    rcases hc with hold | rfl
    · exact h.conditions hold
    · exact hslot
  · intro b hb
    rw [(pushSlot_rest a slot next).1] at hb
    exact h.required hb

theorem Reads.pushSlots (h : a.Reads named) (next : Nat) {slots : List Slot}
    (hslots : ∀ slot ∈ slots, ∀ check ∈ slot.condition.checks, named check.1) :
    (a.pushSlots next slots).1.Reads named := by
  induction slots with
  | nil => exact h
  | cons slot rest ih =>
      have hrest := ih fun s hs => hslots s (List.mem_cons_of_mem _ hs)
      exact hrest.pushSlot (hslots slot List.mem_cons_self) _

theorem Reads.pushPattern (h : a.Reads named) (rule index : Nat) {p : Pattern}
    (hp : ∀ attr, p.Names attr → named attr) : (a.pushPattern rule index p).Reads named := by
  have hslots : ∀ slot ∈ p.slots, ∀ check ∈ slot.condition.checks, named check.1 :=
    fun slot hslot check hcheck => hp _ ⟨slot, hslot, check.2, hcheck⟩
  have hpush : (a.push (.accept rule index)).Reads named := ⟨h.conditions, h.required⟩
  have hlaid := hpush.pushSlots a.states.size hslots
  refine ⟨hlaid.conditions, fun {b} hb => ?_⟩
  rcases List.mem_append.mp hb with hold | hnew
  · exact hlaid.required hold
  · rw [List.mem_singleton.mp hnew]
    intro literal hliteral
    obtain ⟨slot, hslot, -, hcheck⟩ := Pattern.mem_required.mp hliteral
    exact hp _ ⟨slot, hslot, _, hcheck⟩

theorem Reads.pushPatterns (h : a.Reads named) (rule index : Nat) {patterns : List Pattern}
    (hpatterns : ∀ p ∈ patterns, ∀ attr, p.Names attr → named attr) :
    (a.pushPatterns rule index patterns).Reads named := by
  induction patterns generalizing a index with
  | nil => exact h
  | cons p rest ih =>
      exact ih (h.pushPattern rule index (hpatterns p List.mem_cons_self)) (index + 1)
        fun q hq => hpatterns q (List.mem_cons_of_mem _ hq)

/-- The automaton of rules reads the attributes that their patterns name. -/
theorem reads_ofRules {rules : List (TextId × List Pattern)}
    (h : ∀ r ∈ rules, ∀ p ∈ r.2, ∀ attr, p.Names attr → named attr) :
    (ofRules rules).Reads named := by
  induction rules using List.reverseRecOn with
  | nil => exact ⟨by simp [ofRules], by simp [ofRules]⟩
  | append_singleton rules rule ih =>
      have hold := ih fun r hr => h r (List.mem_append_left _ hr)
      let keyed : Automaton := { ofRules rules with keys := (ofRules rules).keys ++ [rule.1] }
      have hkeyed : keyed.Reads named := ⟨hold.conditions, hold.required⟩
      rw [ofRules_append]
      exact hkeyed.pushPatterns _ 0 (h rule (List.mem_append_right _ (List.mem_singleton_self _)))

/-! ## Agreeing tokens -/

theorem holds_congr {c : Condition} (hview : view.AgreesOn other named)
    (hc : ∀ check ∈ c.checks, named check.1) {i : Nat} (hi : i < view.size) :
    c.holds view i = c.holds other i := by
  rw [Condition.holds, Condition.holds]
  congr 1
  apply Bool.eq_iff_iff.mpr
  rw [List.all_eq_true, List.all_eq_true]
  refine forall₂_congr fun check hcheck => ?_
  rw [hview.attr (hc check hcheck) hi]

theorem target?_congr (h : a.Reads named) (hview : view.AgreesOn other named) {pos : Nat}
    (hpos : pos < view.size) : a.target? view pos = a.target? other pos := by
  funext state
  unfold target?
  split
  · split
    · rename_i c hc
      rw [holds_congr hview (h.conditions (Array.mem_of_getElem? hc)) hpos]
    · rfl
  · rfl

theorem advance_congr (h : a.Reads named) (hview : view.AgreesOn other named) {pos : Nat}
    (hpos : pos < view.size) (p : Progress) : a.advance view pos p = a.advance other pos p := by
  rw [advance, advance, step, step, target?_congr h hview hpos]

/-- Going on from a position stays within the tokens. -/
theorem sweep_congr (h : a.Reads named) (hview : view.AgreesOn other named) {start pos left : Nat}
    (hleft : pos + left ≤ view.size) (p : Progress) :
    a.sweep view start pos left p = a.sweep other start pos left p := by
  induction left generalizing pos p with
  | zero => rfl
  | succ left ih =>
      have hrest (p : Progress) :
          a.sweep view start (pos + 1) left p = a.sweep other start (pos + 1) left p :=
        ih (by omega) p
      rw [sweep, sweep, hrest, advance_congr h hview (by omega)]

theorem searchFrom_congr (h : a.Reads named) (hview : view.AgreesOn other named)
    (entries : List Nat) (p : Progress) {start : Nat} (hstart : start < view.size) :
    a.searchFrom view entries p start = a.searchFrom other entries p start := by
  rw [searchFrom, searchFrom, ← hview.size]
  exact sweep_congr h hview (by omega) _

theorem scan_congr (h : a.Reads named) (hview : view.AgreesOn other named) :
    Prescan.scan view a.branches = Prescan.scan other a.branches := by
  have hwanted {attr : Attribute} (hattr : attr ∈ Prescan.wanted a.branches) : named attr := by
    simp only [Prescan.wanted, List.mem_eraseDups, List.mem_flatMap, List.mem_map] at hattr
    obtain ⟨b, hb, literal, hliteral, rfl⟩ := hattr
    exact h.required hb literal hliteral
  rw [Prescan.scan, Prescan.scan, ← hview.size, Prescan.mk.injEq]
  refine List.flatMap_congr fun i hi => List.filterMap_congr fun attr hattr => ?_
  rw [hview.attr (hwanted hattr) (List.mem_range.mp hi)]

/-- A search finds and counts the same in tokens that agree on the attributes it reads. -/
theorem search_congr (h : a.Reads named) (hview : view.AgreesOn other named) (prescan : Bool) :
    a.search view prescan = a.search other prescan := by
  have hactive : a.activeBranches view prescan = a.activeBranches other prescan := by
    rw [activeBranches, activeBranches, scan_congr h hview]
  have hfold (entries : List Nat) (p : Progress) :
      (List.range view.size).foldl (a.searchFrom view entries) p =
        (List.range other.size).foldl (a.searchFrom other entries) p := by
    rw [← hview.size]
    refine List.foldl_ext _ _ _ fun p start hstart => ?_
    exact searchFrom_congr h hview entries p (List.mem_range.mp hstart)
  simp only [search, hactive, hfold]

end Automaton

end SpanRules
