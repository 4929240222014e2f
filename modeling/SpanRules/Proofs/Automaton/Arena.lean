import Mathlib.Logic.Relation
import SpanRules.Proofs.Automaton.Bounds

/-! # The shape of the arena

The states of a pattern stand together, from the accepting one on, and their links stay among
them. From the entry of its branch all of them are reached, so the branches divide the arena. A
split leads to a state that takes a token and back to an older state, so no way round consists of
splits only.
-/

namespace SpanRules

/-- The states to which a state leads. -/
def State.targets : State → List Nat
  | .consume _ _ next => [next]
  | .split first second => [first, second]
  | .accept _ _ => []

/-- How many states a slot takes. -/
def Slot.stateCount (slot : Slot) : Nat :=
  match slot.quantifier with
  | .one | .negated => 1
  | .optional | .oneOrMore | .zeroOrMore => 2

/-- How many states a pattern takes: one that accepts and those of its slots. -/
def Pattern.stateCount (p : Pattern) : Nat :=
  1 + (p.slots.map Slot.stateCount).sum

namespace Automaton

/-- There is a link from one state to the other. -/
def Leads (a : Automaton) (s t : Nat) : Prop :=
  ∃ x, a.states[s]? = some x ∧ t ∈ x.targets

/-- There is a link from one split to another. -/
def LeadsSplit (a : Automaton) (s t : Nat) : Prop :=
  a.Leads s t ∧ (∃ first second, a.states[s]? = some (.split first second)) ∧
    ∃ first second, a.states[t]? = some (.split first second)

/-- Links reach from one state to the other. -/
abbrev Reaches (a : Automaton) : Nat → Nat → Prop :=
  Relation.ReflTransGen a.Leads

/-- Every link leads inside. A split leads to a state that takes a token and back to an older state,
and no way round consists of splits only. Every state is reached from the entry of one branch, and
from there one accepting state is, which is that of the pattern. -/
structure WellFormed (a : Automaton) : Prop where
  states {s : State} : s ∈ a.states → s.Inside a.states.size a.conditions.size a.keys.length
  branches {b : Branch} : b ∈ a.branches → b.entry < a.states.size ∧ b.rule < a.keys.length
  split {s first second : Nat} : a.states[s]? = some (.split first second) →
    (∃ condition negated next, a.states[first]? = some (.consume condition negated next)) ∧
      second < s
  acyclic (s : Nat) : ¬Relation.TransGen a.LeadsSplit s s
  reached {s : Nat} : s < a.states.size →
    ∃! i : Nat, ∃ b : Branch, a.branches[i]? = some b ∧ a.Reaches b.entry s
  accepts {b : Branch} : b ∈ a.branches → ∃ home,
    a.states[home]? = some (.accept b.rule b.pattern) ∧ a.Reaches b.entry home ∧
      ∀ s rule pattern, a.Reaches b.entry s → a.states[s]? = some (.accept rule pattern) → s = home

variable {a b : Automaton} {slot : Slot} {slots : List Slot} {next home entry s t : Nat}

/-! ## Links -/

theorem leads_of_consume {condition : Nat} {negated : Bool}
    (h : a.states[s]? = some (.consume condition negated t)) : a.Leads s t :=
  ⟨_, h, List.mem_singleton_self t⟩

theorem leads_first {second : Nat} (h : a.states[s]? = some (.split t second)) : a.Leads s t :=
  ⟨_, h, List.mem_cons_self⟩

theorem leads_second {first : Nat} (h : a.states[s]? = some (.split first t)) : a.Leads s t :=
  ⟨_, h, List.mem_cons_of_mem _ (List.mem_singleton_self t)⟩

theorem Extends.reaches (hb : b.Extends a) (h : a.Reaches s t) : b.Reaches s t :=
  h.lift id fun _ _ ⟨x, hx, ht⟩ => ⟨x, hb.states hx, ht⟩

theorem Extends.getElem?_eq (hb : b.Extends a) (hs : s < a.states.size) :
    b.states[s]? = a.states[s]? := by
  have hold := Array.getElem?_eq_getElem hs
  rw [hold, hb.states hold]

theorem Closed.lt_of_leads (h : a.Closed) (hleads : a.Leads s t) : t < a.states.size := by
  obtain ⟨x, hx, ht⟩ := hleads
  have hinside := h.inside_of_getElem? hx
  cases x with
  | consume condition negated next => exact List.mem_singleton.mp ht ▸ hinside.2
  | split first second =>
      rcases List.mem_cons.mp ht with rfl | ht
      · exact hinside.1
      · exact List.mem_singleton.mp ht ▸ hinside.2
  | accept rule pattern => cases ht

/-! ## A slot -/

theorem size_pushSlot (a : Automaton) (slot : Slot) (next : Nat) :
    (a.pushSlot slot next).1.states.size = a.states.size + slot.stateCount ∧
      (a.pushSlot slot next).1.conditions.size = a.conditions.size + 1 := by
  unfold pushSlot Slot.stateCount
  cases slot.quantifier <;> simp [push]

theorem place_pushSlot (hle : a.states.size ≤ s)
    (hlt : s < (a.pushSlot slot next).1.states.size) :
    s = a.states.size ∨ slot.stateCount = 2 ∧ s = a.states.size + 1 := by
  have hcount : slot.stateCount ≤ 2 := by
    unfold Slot.stateCount
    cases slot.quantifier <;> decide
  rw [(size_pushSlot a slot next).1] at hlt
  omega

/-- A slot adds a state that takes a token and leads behind the slot or to the next state, and it
may add that one, which is a split. -/
theorem states_pushSlot (a : Automaton) (slot : Slot) (next : Nat) :
    (∃ negated behind, (a.pushSlot slot next).1.states[a.states.size]? =
        some (.consume a.conditions.size negated behind) ∧
      (behind = next ∨ behind = a.states.size + 1)) ∧
    (slot.stateCount = 2 → (a.pushSlot slot next).1.states[a.states.size + 1]? =
      some (.split a.states.size next)) := by
  obtain ⟨c, quantifier⟩ := slot
  obtain ⟨-, hstates⟩ := (Extends.refl (a.pushSlot ⟨c, quantifier⟩ next).1).laid
  cases quantifier with
  | one => exact ⟨⟨_, _, hstates, Or.inl rfl⟩, fun h => absurd h (by simp [Slot.stateCount])⟩
  | negated => exact ⟨⟨_, _, hstates, Or.inl rfl⟩, fun h => absurd h (by simp [Slot.stateCount])⟩
  | optional => exact ⟨⟨_, _, hstates.1, Or.inl rfl⟩, fun _ => hstates.2⟩
  | oneOrMore => exact ⟨⟨_, _, hstates.1, Or.inr rfl⟩, fun _ => hstates.2⟩
  | zeroOrMore => exact ⟨⟨_, _, hstates.1, Or.inr rfl⟩, fun _ => hstates.2⟩

theorem getElem?_pushSlot {x : State} (hs : a.states.size ≤ s)
    (hx : (a.pushSlot slot next).1.states[s]? = some x) :
    s = a.states.size ∧ (∃ negated behind, x = .consume a.conditions.size negated behind ∧
      (behind = next ∨ behind = a.states.size + 1)) ∨
    s = a.states.size + 1 ∧ x = .split a.states.size next := by
  obtain ⟨⟨negated, behind, hconsume, hbehind⟩, hsplit⟩ := states_pushSlot a slot next
  rcases place_pushSlot hs (Array.getElem?_eq_some_iff.mp hx).1 with rfl | ⟨hcount, rfl⟩
  · exact Or.inl ⟨rfl, negated, behind, Option.some.inj (hx.symm.trans hconsume), hbehind⟩
  · exact Or.inr ⟨rfl, Option.some.inj (hx.symm.trans (hsplit hcount))⟩

/-- From the state in which a slot starts the states that it adds are reached, and the state behind
it. -/
theorem reaches_pushSlot (a : Automaton) (slot : Slot) (next : Nat) :
    (a.pushSlot slot next).1.Reaches (a.pushSlot slot next).2 next ∧
    (a.pushSlot slot next).1.Reaches (a.pushSlot slot next).2 a.states.size ∧
    (slot.stateCount = 2 →
      (a.pushSlot slot next).1.Reaches (a.pushSlot slot next).2 (a.states.size + 1)) := by
  obtain ⟨c, quantifier⟩ := slot
  obtain ⟨-, hstates⟩ := (Extends.refl (a.pushSlot ⟨c, quantifier⟩ next).1).laid
  cases quantifier with
  | one =>
      exact ⟨.single (leads_of_consume hstates), .refl,
        fun h => absurd h (by simp [Slot.stateCount])⟩
  | negated =>
      exact ⟨.single (leads_of_consume hstates), .refl,
        fun h => absurd h (by simp [Slot.stateCount])⟩
  | optional =>
      obtain ⟨-, hsplit⟩ := hstates
      exact ⟨.single (leads_second hsplit), .single (leads_first hsplit), fun _ => .refl⟩
  | oneOrMore =>
      obtain ⟨hhere, hsplit⟩ := hstates
      have hloop := leads_of_consume hhere
      exact ⟨.head hloop (.single (leads_second hsplit)), .refl, fun _ => .single hloop⟩
  | zeroOrMore =>
      obtain ⟨-, hsplit⟩ := hstates
      exact ⟨.single (leads_second hsplit), .single (leads_first hsplit), fun _ => .refl⟩

/-! ## A pattern -/

/-- The states from `home` on belong together: they are reached from `entry`, links stay among them,
and only `home` accepts. -/
structure Fragment (a : Automaton) (home entry : Nat) : Prop where
  home_le : home ≤ entry
  entry_lt : entry < a.states.size
  reached {s : Nat} : home ≤ s → s < a.states.size → a.Reaches entry s
  leads {s t : Nat} : home ≤ s → a.Leads s t → home ≤ t
  accepts {s rule pattern : Nat} :
    home ≤ s → a.states[s]? = some (.accept rule pattern) → s = home

/-- A split leads to a state that takes a token and back to an older state. -/
def SplitsBack (a : Automaton) : Prop :=
  ∀ s first second : Nat, a.states[s]? = some (.split first second) →
    (∃ condition negated next, a.states[first]? = some (.consume condition negated next)) ∧
      second < s

/-- A slot starts in a state that it adds. -/
theorem entry_pushSlot (a : Automaton) (slot : Slot) (next : Nat) :
    a.states.size ≤ (a.pushSlot slot next).2 ∧
      (a.pushSlot slot next).2 < (a.pushSlot slot next).1.states.size := by
  rw [(size_pushSlot a slot next).1]
  obtain ⟨c, quantifier⟩ := slot
  cases quantifier <;> simp [pushSlot, Slot.stateCount]

theorem Fragment.pushSlot (h : a.Fragment home next) (slot : Slot) :
    (a.pushSlot slot next).1.Fragment home (a.pushSlot slot next).2 := by
  have hextends := extends_pushSlot a slot next
  have hhome : home < a.states.size := h.home_le.trans_lt h.entry_lt
  obtain ⟨hentry, hlt⟩ := entry_pushSlot a slot next
  obtain ⟨hnext, hhere, hsplit⟩ := reaches_pushSlot a slot next
  constructor
  case home_le => exact hhome.le.trans hentry
  case entry_lt => exact hlt
  case reached =>
    intro s hle hs
    by_cases hold : s < a.states.size
    · exact hnext.trans (hextends.reaches (h.reached hle hold))
    · rcases place_pushSlot (Nat.le_of_not_lt hold) hs with rfl | ⟨hcount, rfl⟩
      · exact hhere
      · exact hsplit hcount
  case leads =>
    rintro s t hle ⟨x, hx, ht⟩
    by_cases hold : s < a.states.size
    · exact h.leads hle ⟨x, hextends.getElem?_eq hold ▸ hx, ht⟩
    · have hbehind : t = next ∨ a.states.size ≤ t := by
        rcases getElem?_pushSlot (Nat.le_of_not_lt hold) hx with
          ⟨-, negated, behind, rfl, hbehind⟩ | ⟨-, rfl⟩
        · obtain rfl : t = behind := List.mem_singleton.mp ht
          exact hbehind.imp_right fun h => (Nat.le_succ _).trans_eq h.symm
        · rcases List.mem_cons.mp ht with rfl | ht
          · exact Or.inr le_rfl
          · exact Or.inl (List.mem_singleton.mp ht)
      rcases hbehind with rfl | hbehind
      · exact h.home_le
      · exact hhome.le.trans hbehind
  case accepts =>
    intro s rule pattern hle hx
    by_cases hold : s < a.states.size
    · exact h.accepts hle (hextends.getElem?_eq hold ▸ hx)
    · rcases getElem?_pushSlot (Nat.le_of_not_lt hold) hx with ⟨-, negated, behind, hx, -⟩ | ⟨-, hx⟩
      · cases hx
      · cases hx

/-- Added states may be splits of this kind only. -/
theorem SplitsBack.of_extends (h : a.SplitsBack) (hb : b.Extends a)
    (hnew : ∀ s first second, a.states.size ≤ s → b.states[s]? = some (.split first second) →
      (∃ condition negated next, b.states[first]? = some (.consume condition negated next)) ∧
        second < s) : b.SplitsBack := by
  intro s first second hs
  by_cases hlt : s < a.states.size
  · rw [hb.getElem?_eq hlt] at hs
    obtain ⟨⟨condition, negated, next, hconsume⟩, hback⟩ := h s first second hs
    exact ⟨⟨condition, negated, next, hb.states hconsume⟩, hback⟩
  · exact hnew s first second (Nat.le_of_not_lt hlt) hs

theorem SplitsBack.pushSlot (h : a.SplitsBack) (hnext : next < a.states.size) (slot : Slot) :
    (a.pushSlot slot next).1.SplitsBack := by
  refine h.of_extends (extends_pushSlot a slot next) fun s first second hle hs => ?_
  rcases getElem?_pushSlot hle hs with ⟨-, negated, behind, hx, -⟩ | ⟨rfl, hx⟩
  · cases hx
  · obtain ⟨rfl, rfl⟩ := State.split.inj hx
    obtain ⟨⟨negated, behind, hconsume, -⟩, -⟩ := states_pushSlot a slot second
    exact ⟨⟨_, negated, behind, hconsume⟩, Nat.lt_succ_of_lt hnext⟩

theorem Fragment.pushSlots (h : a.Fragment home next) (hsplits : a.SplitsBack) (slots : List Slot) :
    (a.pushSlots next slots).1.Fragment home (a.pushSlots next slots).2 ∧
      (a.pushSlots next slots).1.SplitsBack := by
  induction slots with
  | nil => exact ⟨h, hsplits⟩
  | cons slot rest ih => exact ⟨ih.1.pushSlot slot, ih.2.pushSlot ih.1.entry_lt slot⟩

theorem size_pushSlots (a : Automaton) (next : Nat) (slots : List Slot) :
    (a.pushSlots next slots).1.states.size = a.states.size + (slots.map Slot.stateCount).sum ∧
      (a.pushSlots next slots).1.conditions.size = a.conditions.size + slots.length := by
  induction slots with
  | nil => exact ⟨rfl, rfl⟩
  | cons slot rest ih =>
      obtain ⟨hstates, hconditions⟩ :=
        size_pushSlot (a.pushSlots next rest).1 slot (a.pushSlots next rest).2
      rw [ih.1] at hstates
      rw [ih.2] at hconditions
      constructor
      · exact hstates.trans (by rw [List.map_cons, List.sum_cons]; omega)
      · exact hconditions

theorem getElem?_push {x y : State} (hs : a.states.size ≤ s)
    (hx : (a.push x).states[s]? = some y) : s = a.states.size ∧ y = x := by
  obtain ⟨hlt, rfl⟩ := Array.getElem?_eq_some_iff.mp hx
  simp only [push, Array.size_push] at hlt
  obtain rfl : s = a.states.size := by omega
  exact ⟨rfl, Array.getElem_push_eq⟩

theorem fragment_push (a : Automaton) (rule index : Nat) :
    (a.push (.accept rule index)).Fragment a.states.size a.states.size := by
  constructor
  case home_le => exact le_rfl
  case entry_lt => simp [push]
  case reached =>
    intro s hle hlt
    obtain ⟨rfl, -⟩ := getElem?_push hle (Array.getElem?_eq_getElem hlt)
    exact .refl
  case leads =>
    rintro s t hle ⟨x, hx, ht⟩
    obtain ⟨-, rfl⟩ := getElem?_push hle hx
    cases ht
  case accepts => exact fun hle hx => (getElem?_push hle hx).1

/-- The states of a pattern belong together, with the accepting one first. -/
theorem exists_fragment_pushPattern (hsplits : a.SplitsBack) (rule index : Nat) (p : Pattern) :
    ∃ entry,
      (a.pushPattern rule index p).branches = a.branches ++ [⟨entry, rule, index, p.required⟩] ∧
      (a.pushPattern rule index p).Fragment a.states.size entry ∧
      (a.pushPattern rule index p).states[a.states.size]? = some (.accept rule index) ∧
      (a.pushPattern rule index p).SplitsBack := by
  have hback : (a.push (.accept rule index)).SplitsBack := by
    refine hsplits.of_extends (extends_push a _) fun s first second hle hs => ?_
    cases (getElem?_push hle hs).2
  obtain ⟨hfragment, hback⟩ := (fragment_push a rule index).pushSlots hback p.slots
  have hbranches := (pushSlots_rest (a.push (.accept rule index)) a.states.size p.slots).1
  refine ⟨_, congrArg (· ++ _) hbranches, ?_, ?_, hback⟩
  · exact ⟨hfragment.home_le, hfragment.entry_lt, hfragment.reached, hfragment.leads,
      hfragment.accepts⟩
  · exact (extends_pushSlots _ _ _).states (by simp [push])

theorem size_pushPattern (a : Automaton) (rule index : Nat) (p : Pattern) :
    (a.pushPattern rule index p).states.size = a.states.size + p.stateCount ∧
      (a.pushPattern rule index p).conditions.size = a.conditions.size + p.slots.length := by
  obtain ⟨hstates, hconditions⟩ :=
    size_pushSlots (a.push (.accept rule index)) a.states.size p.slots
  rw [push, Array.size_push, Nat.add_assoc] at hstates
  exact ⟨hstates, hconditions⟩

/-! ## All patterns -/

/-- Every state belongs to one branch, from whose entry it is reached. Links stay among the states
of a branch, and one of them accepts. -/
structure Arranged (a : Automaton) (owner : Nat → Nat) : Prop where
  closed : a.Closed
  splits : a.SplitsBack
  leads {s t : Nat} : a.Leads s t → owner t = owner s
  entry {i : Nat} {b : Branch} : a.branches[i]? = some b → owner b.entry = i
  reached {s : Nat} : s < a.states.size →
    ∃ b, a.branches[owner s]? = some b ∧ a.Reaches b.entry s
  accepts {i : Nat} {b : Branch} : a.branches[i]? = some b → ∃ home,
    a.states[home]? = some (.accept b.rule b.pattern) ∧ owner home = i ∧
      ∀ s rule pattern, owner s = i → a.states[s]? = some (.accept rule pattern) → s = home

theorem Arranged.pushPattern {owner : Nat → Nat} {rule : Nat} (h : a.Arranged owner)
    (hrule : rule < a.keys.length) (index : Nat) (p : Pattern) :
    (a.pushPattern rule index p).Arranged
      fun s => if s < a.states.size then owner s else a.branches.length := by
  obtain ⟨entry, hbranches, hfragment, haccept, hback⟩ :=
    exists_fragment_pushPattern h.splits rule index p
  have hextends := extends_pushPattern a rule index p
  have howner {s : Nat} (hs : s < a.states.size) : owner s < a.branches.length := by
    obtain ⟨b, hb, -⟩ := h.reached hs
    exact (List.getElem?_eq_some_iff.mp hb).1
  have hbranch {i : Nat} {b : Branch} (hb : (a.pushPattern rule index p).branches[i]? = some b) :
      a.branches[i]? = some b ∨ i = a.branches.length ∧ b = ⟨entry, rule, index, p.required⟩ := by
    rw [hbranches] at hb
    exact (getElem?_concat_eq_some_iff.mp hb).imp_right (And.imp_right Eq.symm)
  constructor
  case closed => exact h.closed.pushPattern hrule index p
  case splits => exact hback
  case leads =>
    rintro s t ⟨x, hx, ht⟩
    by_cases hs : s < a.states.size
    · have hold : a.Leads s t := ⟨x, hextends.getElem?_eq hs ▸ hx, ht⟩
      rw [if_pos hs, if_pos (h.closed.lt_of_leads hold), h.leads hold]
    · have hle := hfragment.leads (Nat.le_of_not_lt hs) ⟨x, hx, ht⟩
      rw [if_neg hs, if_neg (Nat.not_lt.mpr hle)]
  case entry =>
    intro i b hb
    rcases hbranch hb with hb | ⟨rfl, rfl⟩
    · rw [if_pos (h.closed.branches (List.mem_of_getElem? hb)), h.entry hb]
    · exact if_neg (Nat.not_lt.mpr hfragment.home_le)
  case reached =>
    intro s hs
    rw [hbranches]
    by_cases hold : s < a.states.size
    · obtain ⟨b, hb, hreached⟩ := h.reached hold
      rw [if_pos hold]
      exact ⟨b, getElem?_concat_eq_some_iff.mpr (Or.inl hb), hextends.reaches hreached⟩
    · rw [if_neg hold]
      exact ⟨_, List.getElem?_concat_length, hfragment.reached (Nat.le_of_not_lt hold) hs⟩
  case accepts =>
    intro i b hb
    rcases hbranch hb with hb | ⟨rfl, rfl⟩
    · obtain ⟨home, hhome, hi, honly⟩ := h.accepts hb
      have hlt := (Array.getElem?_eq_some_iff.mp hhome).1
      refine ⟨home, hextends.states hhome, (if_pos hlt).trans hi, fun s r j hs hx => ?_⟩
      by_cases hold : s < a.states.size
      · rw [if_pos hold] at hs
        exact honly s r j hs (hextends.getElem?_eq hold ▸ hx)
      · rw [if_neg hold] at hs
        exact absurd (List.getElem?_eq_some_iff.mp hb).1 (by omega)
    · refine ⟨a.states.size, haccept, if_neg (Nat.lt_irrefl _), fun s r j hs hx => ?_⟩
      by_cases hold : s < a.states.size
      · rw [if_pos hold] at hs
        exact absurd (howner hold) (by omega)
      · exact hfragment.accepts (Nat.le_of_not_lt hold) hx

theorem Arranged.pushPatterns {owner : Nat → Nat} {rule : Nat} (h : a.Arranged owner)
    (hrule : rule < a.keys.length) (index : Nat) (ps : List Pattern) :
    ∃ owner', (a.pushPatterns rule index ps).Arranged owner' := by
  induction ps generalizing a owner index with
  | nil => exact ⟨owner, h⟩
  | cons p ps ih =>
      refine ih (h.pushPattern hrule index p) ?_ (index + 1)
      rwa [keys_pushPattern]

theorem size_pushPatterns (a : Automaton) (rule index : Nat) (ps : List Pattern) :
    (a.pushPatterns rule index ps).states.size =
        a.states.size + (ps.map Pattern.stateCount).sum ∧
      (a.pushPatterns rule index ps).conditions.size =
        a.conditions.size + (ps.map Pattern.size).sum := by
  induction ps generalizing a index with
  | nil => exact ⟨rfl, rfl⟩
  | cons p ps ih =>
      obtain ⟨hstates, hconditions⟩ := size_pushPattern a rule index p
      obtain ⟨hrest, hrestConditions⟩ := ih (a.pushPattern rule index p) (index + 1)
      rw [hstates, Nat.add_assoc] at hrest
      rw [hconditions, Nat.add_assoc] at hrestConditions
      exact ⟨hrest, hrestConditions⟩

theorem exists_arranged_ofRules (rules : List (TextId × List Pattern)) :
    ∃ owner, (ofRules rules).Arranged owner := by
  induction rules using List.reverseRecOn with
  | nil =>
      have hstate {s : Nat} {x : State} : (ofRules []).states[s]? ≠ some x := by simp [ofRules]
      have hbranch {i : Nat} {b : Branch} : (ofRules []).branches[i]? ≠ some b := by simp [ofRules]
      refine ⟨id, closed_ofRules [], ?_, ?_, ?_, ?_, ?_⟩
      · exact fun s first second h => absurd h hstate
      · rintro s t ⟨x, hx, -⟩
        exact absurd hx hstate
      · exact fun h => absurd h hbranch
      · exact fun h => absurd h (Nat.not_lt_zero _)
      · exact fun h => absurd h hbranch
  | append_singleton rules rule ih =>
      obtain ⟨owner, h⟩ := ih
      let keyed : Automaton := { ofRules rules with keys := (ofRules rules).keys ++ [rule.1] }
      have hkeyed : keyed.Arranged owner :=
        ⟨⟨fun hs => (h.closed.states hs).mono le_rfl le_rfl (by simp [keyed]), h.closed.branches⟩,
          h.splits, h.leads, h.entry, h.reached, h.accepts⟩
      rw [ofRules_append]
      exact hkeyed.pushPatterns (by simp [keyed]) 0 rule.2

theorem size_ofRules (rules : List (TextId × List Pattern)) :
    (ofRules rules).states.size = ((rules.flatMap Prod.snd).map Pattern.stateCount).sum ∧
      (ofRules rules).conditions.size = ((rules.flatMap Prod.snd).map Pattern.size).sum := by
  induction rules using List.reverseRecOn with
  | nil => exact ⟨rfl, rfl⟩
  | append_singleton rules rule ih =>
      let keyed : Automaton := { ofRules rules with keys := (ofRules rules).keys ++ [rule.1] }
      obtain ⟨hstates, hconditions⟩ :=
        size_pushPatterns keyed (ofRules rules).keys.length 0 rule.2
      rw [ofRules_append]
      constructor
      · refine hstates.trans ?_
        simp [keyed, ih.1]
      · refine hconditions.trans ?_
        simp [keyed, ih.2]

/-- Rules, and the patterns of each, keep their order. -/
theorem map_branches_ofRules (rules : List (TextId × List Pattern)) :
    (ofRules rules).branches.map (fun b => (b.rule, b.pattern)) =
      rules.zipIdx.flatMap fun r => (List.range r.1.2.length).map (r.2, ·) := by
  have hplaced : (ofRules rules).branches.map (fun b => (b.rule, b.pattern)) =
      (placed rules).map fun p => (p.rule, p.index) := by
    rw [← List.forall₂_eq_eq_eq, List.forall₂_map_left_iff, List.forall₂_map_right_iff]
    exact (branches_ofRules rules).imp fun b p h => Prod.ext h.rule h.index
  rw [hplaced, placed, List.map_flatMap]
  refine List.flatMap_congr fun r _ => ?_
  rw [List.map_map, List.range_eq_range', ← List.zipIdx_map_snd 0 r.1.2, List.map_map]
  rfl

theorem Arranged.wellFormed {owner : Nat → Nat} (h : a.Arranged owner)
    (hrules : ∀ b ∈ a.branches, b.rule < a.keys.length) : a.WellFormed := by
  have howner {i s : Nat} {b : Branch} (hb : a.branches[i]? = some b) (hs : a.Reaches b.entry s) :
      owner s = i := by
    induction hs with
    | refl => exact h.entry hb
    | tail _ hlast ih => exact (h.leads hlast).trans ih
  have hsplit {s t : Nat} (hst : a.LeadsSplit s t) : t < s := by
    obtain ⟨⟨x, hx, ht⟩, ⟨first, second, hs⟩, first', second', htarget⟩ := hst
    obtain rfl := Option.some.inj (hx.symm.trans hs)
    obtain ⟨⟨condition, negated, next, hconsume⟩, hlt⟩ := h.splits s first second hs
    rcases List.mem_cons.mp ht with rfl | ht
    · cases hconsume.symm.trans htarget
    · exact List.mem_singleton.mp ht ▸ hlt
  have hsplits {s t : Nat} (hst : Relation.TransGen a.LeadsSplit s t) : t < s := by
    induction hst with
    | single hst => exact hsplit hst
    | tail _ hlast ih => exact (hsplit hlast).trans ih
  constructor
  case states => exact h.closed.states
  case branches => exact fun hb => ⟨h.closed.branches hb, hrules _ hb⟩
  case split => exact h.splits _ _ _
  case acyclic => exact fun s hround => Nat.lt_irrefl s (hsplits hround)
  case reached =>
    intro s hs
    obtain ⟨b, hb, hreached⟩ := h.reached hs
    exact ⟨owner s, ⟨b, hb, hreached⟩, fun i ⟨b', hb', hreached'⟩ => (howner hb' hreached').symm⟩
  case accepts =>
    intro b hb
    obtain ⟨i, hi⟩ := List.getElem?_of_mem hb
    obtain ⟨home, hhome, rfl, honly⟩ := h.accepts hi
    obtain ⟨b', hb', hreached⟩ := h.reached (Array.getElem?_eq_some_iff.mp hhome).1
    obtain rfl := Option.some.inj (hi.symm.trans hb')
    exact ⟨home, hhome, hreached, fun s rule pattern hs => honly s rule pattern (howner hi hs)⟩

/-- The arena of rules is well formed. It has a branch for each pattern, in order, and no other
states and conditions than those of the patterns. -/
theorem arena_wellFormed (rules : List (TextId × List Pattern)) :
    (ofRules rules).WellFormed ∧
    (ofRules rules).keys = rules.map Prod.fst ∧
    (ofRules rules).branches.map (fun b => (b.rule, b.pattern)) =
      (rules.zipIdx.flatMap fun r => (List.range r.1.2.length).map (r.2, ·)) ∧
    (ofRules rules).states.size = ((rules.flatMap Prod.snd).map Pattern.stateCount).sum ∧
    (ofRules rules).conditions.size = ((rules.flatMap Prod.snd).map Pattern.size).sum := by
  obtain ⟨owner, h⟩ := exists_arranged_ofRules rules
  have hrules : ∀ b ∈ (ofRules rules).branches, b.rule < (ofRules rules).keys.length := by
    intro b hb
    have hplace := List.mem_map_of_mem (f := fun b => (b.rule, b.pattern)) hb
    rw [map_branches_ofRules] at hplace
    obtain ⟨r, hr, hplace⟩ := List.mem_flatMap.mp hplace
    obtain ⟨index, -, hindex⟩ := List.mem_map.mp hplace
    have hrule : r.2 = b.rule := congrArg Prod.fst hindex
    rw [keys_ofRules, List.length_map, ← hrule]
    exact (List.getElem?_eq_some_iff.mp (List.mem_zipIdx_iff_getElem?.mp hr)).1
  exact ⟨h.wellFormed hrules, keys_ofRules rules, map_branches_ofRules rules, size_ofRules rules⟩

example :
    (ofRules [(⟨1⟩, [⟨[⟨⟨[], false⟩, .oneOrMore⟩, ⟨⟨[], false⟩, .one⟩], by simp⟩])]).states =
      #[.accept 0 0, .consume 0 false 0, .consume 1 false 3, .split 2 1] := by
  decide

end Automaton

end SpanRules
