import Mathlib.Data.List.Forall2
import Mathlib.Data.List.Induction
import Mathlib.Data.List.Sigma
import SpanRules.Proofs.Automaton.Frontier
import SpanRules.Proofs.Pattern.Meaning

/-! # What the branches of an automaton recognize

States and conditions are only ever added behind the others, so a branch stays as it was laid
out. From its entry an accepting state is reached exactly by the matches of its pattern.
-/

namespace SpanRules.Automaton

/-- `b` has the states and the conditions of `a`, in their places. -/
structure Extends (b a : Automaton) : Prop where
  states {i : Nat} {s : State} : a.states[i]? = some s → b.states[i]? = some s
  conditions {i : Nat} {c : Condition} : a.conditions[i]? = some c → b.conditions[i]? = some c

theorem Extends.refl (a : Automaton) : a.Extends a :=
  ⟨id, id⟩

theorem Extends.trans {a b c : Automaton} (hc : c.Extends b) (hb : b.Extends a) : c.Extends a :=
  ⟨hc.states ∘ hb.states, hc.conditions ∘ hb.conditions⟩

theorem getElem?_push_of_eq_some {α : Type} {xs : Array α} {i : Nat} {x y : α}
    (h : xs[i]? = some y) : (xs.push x)[i]? = some y := by
  obtain ⟨hi, -⟩ := Array.getElem?_eq_some_iff.mp h
  rw [Array.getElem?_push, if_neg hi.ne, h]

theorem getElem?_push_push {α : Type} (xs : Array α) (x y : α) :
    ((xs.push x).push y)[xs.size]? = some x ∧ ((xs.push x).push y)[xs.size + 1]? = some y := by
  constructor
  · have hne : xs.size ≠ (xs.push x).size := by simp
    rw [Array.getElem?_push, if_neg hne, Array.getElem?_push_size]
  · rw [← Array.size_push x, Array.getElem?_push_size]

theorem getElem?_concat_eq_some_iff {α : Type} {xs : List α} {x y : α} {i : Nat} :
    (xs ++ [x])[i]? = some y ↔ xs[i]? = some y ∨ i = xs.length ∧ x = y := by
  rcases Nat.lt_trichotomy i xs.length with hlt | rfl | hgt
  · rw [List.getElem?_append_left hlt]
    simp [hlt.ne]
  · simp
  · simp [List.getElem?_eq_none_iff.mpr (by simp; omega : (xs ++ [x]).length ≤ i),
      List.getElem?_eq_none_iff.mpr hgt.le, hgt.ne']

theorem extends_push (a : Automaton) (s : State) : (a.push s).Extends a :=
  ⟨getElem?_push_of_eq_some, id⟩

theorem extends_pushSlot (a : Automaton) (slot : Slot) (next : Nat) :
    (a.pushSlot slot next).1.Extends a := by
  have hcondition : Extends { a with conditions := a.conditions.push slot.condition } a :=
    ⟨id, getElem?_push_of_eq_some⟩
  unfold pushSlot
  split
  · exact (extends_push _ _).trans hcondition
  · exact (extends_push _ _).trans hcondition
  · exact ((extends_push _ _).trans (extends_push _ _)).trans hcondition
  · exact ((extends_push _ _).trans (extends_push _ _)).trans hcondition
  · exact ((extends_push _ _).trans (extends_push _ _)).trans hcondition

theorem extends_pushSlots (a : Automaton) (next : Nat) (slots : List Slot) :
    (a.pushSlots next slots).1.Extends a := by
  induction slots with
  | nil => exact .refl a
  | cons slot rest ih => exact (extends_pushSlot _ _ _).trans ih

theorem extends_pushPattern (a : Automaton) (rule index : Nat) (p : Pattern) :
    (a.pushPattern rule index p).Extends a :=
  let h := (extends_pushSlots (a.push (.accept rule index)) a.states.size p.slots).trans
    (extends_push a (.accept rule index))
  ⟨h.states, h.conditions⟩

/-! ## A slot -/

/-- The condition and the states that a slot adds. -/
theorem Extends.laid {a b : Automaton} {slot : Slot} {next : Nat}
    (hb : b.Extends (a.pushSlot slot next).1) :
    b.conditions[a.conditions.size]? = some slot.condition ∧
    match slot.quantifier with
    | .one => b.states[a.states.size]? = some (.consume a.conditions.size false next)
    | .negated => b.states[a.states.size]? = some (.consume a.conditions.size true next)
    | .optional =>
      b.states[a.states.size]? = some (.consume a.conditions.size false next) ∧
        b.states[a.states.size + 1]? = some (.split a.states.size next)
    | .oneOrMore | .zeroOrMore =>
      b.states[a.states.size]? = some (.consume a.conditions.size false (a.states.size + 1)) ∧
        b.states[a.states.size + 1]? = some (.split a.states.size next) := by
  obtain ⟨c, quantifier⟩ := slot
  have htwo (s t : State) := getElem?_push_push a.states s t
  refine ⟨hb.conditions (by cases quantifier <;> simp [pushSlot, push]), ?_⟩
  cases quantifier with
  | one => exact hb.states (by simp [pushSlot, push])
  | negated => exact hb.states (by simp [pushSlot, push])
  | optional => exact ⟨hb.states (htwo _ _).1, hb.states (htwo _ _).2⟩
  | oneOrMore => exact ⟨hb.states (htwo _ _).1, hb.states (htwo _ _).2⟩
  | zeroOrMore => exact ⟨hb.states (htwo _ _).1, hb.states (htwo _ _).2⟩

/-- The first state that a slot adds takes its tokens. -/
theorem Extends.exists_consume {a b : Automaton} {slot : Slot} {next : Nat}
    (hb : b.Extends (a.pushSlot slot next).1) : ∃ negated behind,
      b.states[a.states.size]? = some (.consume a.conditions.size negated behind) := by
  obtain ⟨c, quantifier⟩ := slot
  obtain ⟨-, hstates⟩ := hb.laid
  cases quantifier with
  | one => exact ⟨_, _, hstates⟩
  | negated => exact ⟨_, _, hstates⟩
  | optional => exact ⟨_, _, hstates.1⟩
  | oneOrMore => exact ⟨_, _, hstates.1⟩
  | zeroOrMore => exact ⟨_, _, hstates.1⟩

section Slots

variable {a b : Automaton} {view : TokenView} {goal stop pos next rule pattern : Nat}

/-- The cycle of a slot for any number of tokens takes what the slot takes. Every round takes a
token, so the tokens left before `stop` bound the rounds. -/
theorem path_loop {here loop condition : Nat} {c : Condition}
    (hloop : b.states[loop]? = some (.split here next))
    (hhere : b.states[here]? = some (.consume condition false loop))
    (hc : b.conditions[condition]? = some c)
    (hgoal : Rests b.states goal) (hneHere : goal ≠ here) :
    b.Path view goal stop loop pos ↔
      ∃ cut, Slot.Takes ⟨c, .zeroOrMore⟩ view pos cut ∧ b.Path view goal stop next cut := by
  have hneLoop : goal ≠ loop := hgoal.ne_of_split hloop
  induction hk : stop + 1 - pos generalizing pos with
  | zero =>
      constructor
      · intro h
        have := h.le
        omega
      · rintro ⟨cut, htakes, hrest⟩
        have := htakes.le
        have := hrest.le
        omega
  | succ k ih =>
      have hnext : b.Path view goal stop loop (pos + 1) ↔
          ∃ cut, Slot.Takes ⟨c, .zeroOrMore⟩ view (pos + 1) cut ∧
            b.Path view goal stop next cut := ih (by omega)
      have htakes (cut : Nat) : Slot.Takes ⟨c, .zeroOrMore⟩ view pos cut ↔
          c.holds view pos = true ∧ Slot.Takes ⟨c, .zeroOrMore⟩ view (pos + 1) cut ∨ cut = pos :=
        Slot.takes_zeroOrMore rfl
      rw [path_of_split hloop hneLoop, path_of_consume hhere hc hneHere, hnext]
      simp only [htakes]
      constructor
      · rintro (⟨hholds, cut, htakes, hrest⟩ | hrest)
        · exact ⟨cut, Or.inl ⟨by simpa using hholds, htakes⟩, hrest⟩
        · exact ⟨pos, Or.inr rfl, hrest⟩
      · rintro ⟨cut, ⟨hholds, htakes⟩ | rfl, hrest⟩
        · exact Or.inl ⟨by simpa using hholds, cut, htakes, hrest⟩
        · exact Or.inr hrest

/-- From the state in which a slot starts, a path to a resting state of other slots takes a
segment of the slot and goes on from the state behind the slot. -/
theorem path_pushSlot {slot : Slot} (hb : b.Extends (a.pushSlot slot next).1)
    (hgoal : Rests b.states goal) (hne : goal ≠ a.states.size) :
    b.Path view goal stop (a.pushSlot slot next).2 pos ↔
      ∃ cut, slot.Takes view pos cut ∧ b.Path view goal stop next cut := by
  obtain ⟨c, quantifier⟩ := slot
  obtain ⟨hc, hstates⟩ := hb.laid
  cases quantifier with
  | one =>
      change b.Path view goal stop a.states.size pos ↔ _
      rw [path_of_consume hstates hc hne]
      simp [Slot.takes_one]
  | negated =>
      change b.Path view goal stop a.states.size pos ↔ _
      rw [path_of_consume hstates hc hne]
      simp [Slot.takes_negated]
  | optional =>
      obtain ⟨hhere, hsplit⟩ := hstates
      change b.Path view goal stop (a.states.size + 1) pos ↔ _
      rw [path_of_split hsplit (hgoal.ne_of_split hsplit), path_of_consume hhere hc hne]
      simp [Slot.takes_optional, or_and_right, exists_or]
  | oneOrMore =>
      obtain ⟨hhere, hsplit⟩ := hstates
      change b.Path view goal stop a.states.size pos ↔ _
      rw [path_of_consume hhere hc hne, path_loop hsplit hhere hc hgoal hne]
      simp [Slot.takes_oneOrMore, and_assoc]
  | zeroOrMore => exact path_loop hstates.2 hstates.1 hc hgoal hne

theorem path_pushSlots {slots : List Slot} (hb : b.Extends (a.pushSlots next slots).1)
    (hgoal : b.states[goal]? = some (.accept rule pattern)) :
    b.Path view goal stop (a.pushSlots next slots).2 pos ↔
      ∃ cut, Fits view slots pos cut ∧ b.Path view goal stop next cut := by
  induction slots generalizing pos with
  | nil => simp [pushSlots, Fits]
  | cons slot rest ih =>
      have hrest : b.Extends (a.pushSlots next rest).1 := hb.trans (extends_pushSlot _ _ _)
      rw [show a.pushSlots next (slot :: rest) =
        (a.pushSlots next rest).1.pushSlot slot (a.pushSlots next rest).2 from rfl] at hb ⊢
      have hne : goal ≠ (a.pushSlots next rest).1.states.size := by
        rintro rfl
        obtain ⟨negated, behind, hconsume⟩ := hb.exists_consume
        simp [hconsume] at hgoal
      rw [path_pushSlot hb (rests_of_accept hgoal) hne]
      simp only [ih hrest, Fits]
      constructor
      · rintro ⟨cut, htakes, stop, hfits, hpath⟩
        exact ⟨stop, ⟨cut, htakes, hfits⟩, hpath⟩
      · rintro ⟨stop, ⟨cut, htakes, hfits⟩, hpath⟩
        exact ⟨cut, htakes, stop, hfits, hpath⟩

end Slots

/-! ## Branches -/

/-- A pattern and where it stands: the position of its rule and its own among those of the
rule. -/
structure Placed where
  rule : Nat
  index : Nat
  pattern : Pattern

/-- The patterns of rules in order. -/
def placed (rules : List (TextId × List Pattern)) : List Placed :=
  rules.zipIdx.flatMap fun r => r.1.2.zipIdx.map fun p => ⟨r.2, p.2, p.1⟩

theorem mem_placed {rules : List (TextId × List Pattern)} {p : Placed} :
    p ∈ placed rules ↔
      ∃ r, rules[p.rule]? = some r ∧ r.2[p.index]? = some p.pattern := by
  obtain ⟨rule, index, pattern⟩ := p
  simp only [placed, List.mem_flatMap, List.mem_map, Prod.exists, List.mem_zipIdx_iff_getElem?,
    Placed.mk.injEq]
  constructor
  · intro hp
    obtain ⟨key, patterns, i, hr, q, j, hq, rfl, rfl, rfl⟩ := hp
    exact ⟨key, patterns, hr, hq⟩
  · intro hp
    obtain ⟨key, patterns, hr, hq⟩ := hp
    exact ⟨key, patterns, rule, hr, pattern, index, hq, rfl, rfl, rfl⟩

theorem eq_of_mem_placed {rules : List (TextId × List Pattern)} {p q : Placed}
    (hp : p ∈ placed rules) (hq : q ∈ placed rules) (hrule : p.rule = q.rule)
    (hindex : p.index = q.index) : p = q := by
  obtain ⟨r, hr, hpattern⟩ := mem_placed.mp hp
  obtain ⟨r', hr', hpattern'⟩ := mem_placed.mp hq
  rw [hrule, hr', Option.some.injEq] at hr
  rw [hindex, ← hr, hpattern', Option.some.injEq] at hpattern
  obtain ⟨rule, index, pattern⟩ := p
  simp only at hrule hindex hpattern
  rw [hrule, hindex, ← hpattern]

theorem nodup_placed (rules : List (TextId × List Pattern)) : (placed rules).Nodup := by
  rw [placed, List.nodup_flatMap]
  constructor
  · intro r _
    refine (List.Nodup.of_map Prod.snd (List.nodup_zipIdx_map_snd r.1.2)).map ?_
    rintro ⟨p, i⟩ ⟨q, j⟩ heq
    simp only [Placed.mk.injEq] at heq
    obtain ⟨-, rfl, rfl⟩ := heq
    rfl
  · have hrules := List.pairwise_map.mp (List.nodup_zipIdx_map_snd rules)
    refine hrules.imp fun {r s} hne => List.disjoint_left.mpr fun p hr hs => hne ?_
    obtain ⟨x, -, rfl⟩ := List.mem_map.mp hr
    obtain ⟨y, -, heq⟩ := List.mem_map.mp hs
    exact (congrArg Placed.rule heq).symm

/-- The branch is that of the pattern: from its entry, also when more is added behind it, the only
accepting state to be reached is that of the pattern, and the way there takes the matches. -/
structure Recognizes (a : Automaton) (branch : Branch) (p : Placed) : Prop where
  rule : branch.rule = p.rule
  index : branch.pattern = p.index
  required : branch.required = p.pattern.required
  accepts : ∃ home, a.states[home]? = some (.accept p.rule p.index) ∧
    ∀ b : Automaton, b.Extends a → ∀ view goal stop pos rule index,
      b.states[goal]? = some (.accept rule index) →
        (b.Path view goal stop branch.entry pos ↔
          goal = home ∧ p.pattern.Matches view pos stop)

theorem Recognizes.mono {a b : Automaton} {branch : Branch} {p : Placed}
    (h : a.Recognizes branch p) (hb : b.Extends a) : b.Recognizes branch p := by
  obtain ⟨home, hhome, hpath⟩ := h.accepts
  exact ⟨h.rule, h.index, h.required, home, hb.states hhome,
    fun c hc => hpath c (hc.trans hb)⟩

theorem pushSlot_rest (a : Automaton) (slot : Slot) (next : Nat) :
    (a.pushSlot slot next).1.branches = a.branches ∧ (a.pushSlot slot next).1.keys = a.keys := by
  unfold pushSlot
  split <;> exact ⟨rfl, rfl⟩

theorem pushSlots_rest (a : Automaton) (next : Nat) (slots : List Slot) :
    (a.pushSlots next slots).1.branches = a.branches ∧
      (a.pushSlots next slots).1.keys = a.keys := by
  induction slots with
  | nil => exact ⟨rfl, rfl⟩
  | cons slot rest ih =>
      have h := pushSlot_rest (a.pushSlots next rest).1 slot (a.pushSlots next rest).2
      exact ⟨h.1.trans ih.1, h.2.trans ih.2⟩

@[simp] theorem keys_pushPattern (a : Automaton) (rule index : Nat) (p : Pattern) :
    (a.pushPattern rule index p).keys = a.keys :=
  (pushSlots_rest (a.push (.accept rule index)) a.states.size p.slots).2

/-- A pattern adds one branch behind the others, and it recognizes the pattern. -/
theorem exists_branch_pushPattern (a : Automaton) (rule index : Nat) (p : Pattern) :
    ∃ branch, (a.pushPattern rule index p).branches = a.branches ++ [branch] ∧
      (a.pushPattern rule index p).Recognizes branch ⟨rule, index, p⟩ := by
  let slots := (a.push (.accept rule index)).pushSlots a.states.size p.slots
  have hslots : slots.1.Extends (a.push (.accept rule index)) := extends_pushSlots _ _ _
  have hhome : slots.1.states[a.states.size]? = some (.accept rule index) :=
    hslots.states (by simp [push])
  refine ⟨⟨slots.2, rule, index, p.required⟩, ?_, rfl, rfl, rfl, a.states.size, hhome, ?_⟩
  · exact congrArg (· ++ _) (pushSlots_rest _ _ _).1
  · intro b hb view goal stop pos r i hgoal
    have hb : b.Extends slots.1 := ⟨hb.states, hb.conditions⟩
    change b.Path view goal stop slots.2 pos ↔ _
    rw [path_pushSlots hb hgoal]
    simp only [path_of_accept (hb.states hhome)]
    constructor
    · rintro ⟨cut, hfits, rfl, rfl⟩
      exact ⟨rfl, hfits⟩
    · rintro ⟨rfl, hmatches⟩
      exact ⟨stop, hmatches, rfl, rfl⟩

@[simp] theorem keys_pushPatterns (a : Automaton) (rule index : Nat) (ps : List Pattern) :
    (a.pushPatterns rule index ps).keys = a.keys := by
  induction ps generalizing a index with
  | nil => rfl
  | cons p ps ih => rw [pushPatterns, ih, keys_pushPattern]

theorem branches_pushPatterns {a : Automaton} {places : List Placed} (rule index : Nat)
    (ps : List Pattern) (h : List.Forall₂ a.Recognizes a.branches places) :
    List.Forall₂ (a.pushPatterns rule index ps).Recognizes
      (a.pushPatterns rule index ps).branches
      (places ++ (ps.zipIdx index).map fun p => ⟨rule, p.2, p.1⟩) := by
  induction ps generalizing a places index with
  | nil => simpa [pushPatterns] using h
  | cons p ps ih =>
      obtain ⟨branch, hbranches, hbranch⟩ := exists_branch_pushPattern a rule index p
      have hold : List.Forall₂ (a.pushPattern rule index p).Recognizes a.branches places :=
        h.imp fun _ _ hr => hr.mono (extends_pushPattern a rule index p)
      have hnew : List.Forall₂ (a.pushPattern rule index p).Recognizes
          (a.pushPattern rule index p).branches (places ++ [⟨rule, index, p⟩]) := by
        rw [hbranches]
        exact List.rel_append hold (.cons hbranch .nil)
      simpa [pushPatterns, List.append_assoc] using ih (index + 1) hnew

/-! ## All rules -/

theorem ofRules_append (rules : List (TextId × List Pattern)) (rule : TextId × List Pattern) :
    ofRules (rules ++ [rule]) = (ofRules rules).pushRule rule := by
  simp [ofRules]

@[simp] theorem keys_ofRules (rules : List (TextId × List Pattern)) :
    (ofRules rules).keys = rules.map Prod.fst := by
  induction rules using List.reverseRecOn with
  | nil => rfl
  | append_singleton rules rule ih => simp [ofRules_append, pushRule, ih]

/-- The automaton of rules has one branch for each pattern, in order, and each recognizes its
pattern. -/
theorem branches_ofRules (rules : List (TextId × List Pattern)) :
    List.Forall₂ (ofRules rules).Recognizes (ofRules rules).branches (placed rules) := by
  induction rules using List.reverseRecOn with
  | nil => exact .nil
  | append_singleton rules rule ih =>
      let keyed : Automaton := { ofRules rules with keys := (ofRules rules).keys ++ [rule.1] }
      have hkeyed : List.Forall₂ keyed.Recognizes keyed.branches (placed rules) :=
        ih.imp fun _ _ hr => hr.mono ⟨id, id⟩
      have hplaced : placed (rules ++ [rule]) = placed rules ++ rule.2.zipIdx.map fun p =>
          ⟨(ofRules rules).keys.length, p.2, p.1⟩ := by
        simp [placed, List.zipIdx_append]
      rw [ofRules_append, hplaced]
      exact branches_pushPatterns _ 0 rule.2 hkeyed

end SpanRules.Automaton
