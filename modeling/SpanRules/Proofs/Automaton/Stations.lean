import SpanRules.Proofs.Automaton.Prescan

/-! # Where matches stand

On its way through a pattern a match stands at one of the slots, waiting for a token, or at the end.
Each of these stations is one state of the branch, and no two branches share a state. So the active
states can be counted pattern by pattern.
-/

namespace SpanRules

/-- After the tokens from `start` to before `pos` the slot waits for a token. -/
def Slot.Waits (slot : Slot) (view : TokenView) (start pos : Nat) : Prop :=
  match slot.quantifier with
  | .oneOrMore | .zeroOrMore => Slot.Takes ⟨slot.condition, .zeroOrMore⟩ view start pos
  | _ => pos = start

/-- A match of the slots that began before the token `start` stands before the token `pos` at the
slot of this index, or, when there are no more slots, at the end. -/
def Stands (view : TokenView) : List Slot → Nat → Nat → Nat → Prop
  | [], index, start, pos => index = 0 ∧ start = pos
  | slot :: _, 0, start, pos => slot.Waits view start pos
  | slot :: rest, index + 1, start, pos =>
    ∃ cut, slot.Takes view start cut ∧ Stands view rest index cut pos

theorem Stands.le_length {view : TokenView} {slots : List Slot} {index start pos : Nat}
    (h : Stands view slots index start pos) : index ≤ slots.length := by
  induction slots generalizing index start with
  | nil => exact Nat.le_of_eq h.1
  | cons slot rest ih =>
      cases index with
      | zero => exact Nat.zero_le _
      | succ index =>
          obtain ⟨cut, -, hrest⟩ := h
          exact Nat.succ_le_succ (ih hrest)

/-- A match stands at the end when the tokens so far fit. -/
theorem stands_length_iff {view : TokenView} {slots : List Slot} {start pos : Nat} :
    Stands view slots slots.length start pos ↔ Fits view slots start pos := by
  induction slots generalizing start with
  | nil => simp [Stands, Fits]
  | cons slot rest ih => simp only [List.length_cons, Stands, Fits, ih]

namespace Automaton

variable {a b : Automaton} {view : TokenView} {slot : Slot} {slots : List Slot}
  {goal pos start next rule index : Nat}

/-! ## The state of a slot -/

/-- The cycle of a slot for any number of tokens comes back to its state as long as the condition
holds. -/
theorem path_loop_self {here loop condition : Nat} {c : Condition}
    (hloop : b.states[loop]? = some (.split here next))
    (hhere : b.states[here]? = some (.consume condition false loop))
    (hc : b.conditions[condition]? = some c)
    (hnext : ∀ start, ¬b.Path view here pos next start) :
    b.Path view here pos here start ↔ Slot.Takes ⟨c, .zeroOrMore⟩ view start pos := by
  have hne : here ≠ loop := (rests_of_consume hhere).ne_of_split hloop
  induction hk : pos + 1 - start generalizing start with
  | zero =>
      constructor
      · intro h
        have := h.le
        omega
      · intro h
        have := h.le
        omega
  | succ k ih =>
      have hagain : b.Path view here pos here (start + 1) ↔
          Slot.Takes ⟨c, .zeroOrMore⟩ view (start + 1) pos := ih (by omega)
      have htakes : Slot.Takes ⟨c, .zeroOrMore⟩ view start pos ↔
          c.holds view start = true ∧ Slot.Takes ⟨c, .zeroOrMore⟩ view (start + 1) pos ∨
            pos = start := Slot.takes_zeroOrMore rfl
      rw [path_self_of_consume hhere hc, path_of_split hloop hne, or_iff_left (hnext _), hagain,
        htakes, or_comm, Bool.ne_false_iff]

/-- When no path leads back to the state of a slot from behind the slot, the paths there are those
of the slot waiting for a token. -/
theorem path_pushSlot_self (hb : b.Extends (a.pushSlot slot next).1)
    (hnext : ∀ start, ¬b.Path view a.states.size pos next start) :
    b.Path view a.states.size pos (a.pushSlot slot next).2 start ↔ slot.Waits view start pos := by
  obtain ⟨c, quantifier⟩ := slot
  obtain ⟨hc, hstates⟩ := hb.laid
  have hne : a.states.size ≠ a.states.size + 1 := Nat.ne_of_lt (Nat.lt_succ_self _)
  cases quantifier with
  | one =>
      change b.Path view a.states.size pos a.states.size start ↔ pos = start
      rw [path_self_of_consume hstates hc]
      simp [hnext]
  | negated =>
      change b.Path view a.states.size pos a.states.size start ↔ pos = start
      rw [path_self_of_consume hstates hc]
      simp [hnext]
  | optional =>
      obtain ⟨hhere, hsplit⟩ := hstates
      change b.Path view a.states.size pos (a.states.size + 1) start ↔ pos = start
      rw [path_of_split hsplit hne, or_iff_left (hnext _), path_self_of_consume hhere hc]
      simp [hnext]
  | oneOrMore => exact path_loop_self hstates.2 hstates.1 hc hnext
  | zeroOrMore =>
      obtain ⟨hhere, hsplit⟩ := hstates
      change b.Path view a.states.size pos (a.states.size + 1) start ↔ _
      rw [path_of_split hsplit hne, or_iff_left (hnext _)]
      exact path_loop_self hsplit hhere hc hnext

/-! ## The stations of a branch -/

/-- The states at which matches of the slots stand, slot by slot, and the state behind them. -/
def stations (a : Automaton) (next : Nat) : List Slot → List Nat
  | [] => [next]
  | _ :: rest => (a.pushSlots next rest).1.states.size :: a.stations next rest

theorem length_stations : (a.stations next slots).length = slots.length + 1 := by
  induction slots with
  | nil => rfl
  | cons slot rest ih => simp [stations, ih]

theorem size_lt_pushSlot (a : Automaton) (slot : Slot) (next : Nat) :
    a.states.size < (a.pushSlot slot next).1.states.size := by
  obtain ⟨negated, behind, hconsume⟩ := (Extends.refl (a.pushSlot slot next).1).exists_consume
  exact (Array.getElem?_eq_some_iff.mp hconsume).1

theorem lt_size_of_mem_stations (hnext : next < a.states.size) :
    ∀ s ∈ a.stations next slots, s < (a.pushSlots next slots).1.states.size := by
  induction slots with
  | nil => simpa [stations, pushSlots] using hnext
  | cons slot rest ih =>
      have hlt := size_lt_pushSlot (a.pushSlots next rest).1 slot (a.pushSlots next rest).2
      intro s hs
      rcases List.mem_cons.mp hs with rfl | hs
      · exact hlt
      · exact (ih s hs).trans hlt

theorem nodup_stations (hnext : next < a.states.size) : (a.stations next slots).Nodup := by
  induction slots with
  | nil => exact List.nodup_singleton next
  | cons slot rest ih =>
      refine List.nodup_cons.mpr ⟨?_, ih⟩
      intro hmem
      exact Nat.lt_irrefl _ (lt_size_of_mem_stations hnext _ hmem)

theorem mem_stations_self : next ∈ a.stations next slots := by
  induction slots with
  | nil => exact List.mem_singleton_self next
  | cons slot rest ih => exact List.mem_cons_of_mem _ ih

theorem le_of_mem_stations (hnext : next < a.states.size) :
    ∀ s ∈ a.stations next slots, next ≤ s := by
  induction slots with
  | nil => simp [stations]
  | cons slot rest ih =>
      intro s hs
      rcases List.mem_cons.mp hs with rfl | hs
      · exact (lt_size_of_mem_stations hnext _ mem_stations_self).le
      · exact ih s hs

theorem rests_of_mem_stations (hb : b.Extends (a.pushSlots next slots).1)
    (hnext : a.states[next]? = some (.accept rule index)) :
    ∀ s ∈ a.stations next slots, Rests b.states s := by
  induction slots with
  | nil =>
      intro s hs
      rw [List.mem_singleton.mp hs]
      exact rests_of_accept (hb.states hnext)
  | cons slot rest ih =>
      intro s hs
      rcases List.mem_cons.mp hs with rfl | hs
      · obtain ⟨negated, behind, hconsume⟩ := Extends.exists_consume hb
        exact rests_of_consume hconsume
      · exact ih (hb.trans (extends_pushSlot _ _ _)) s hs

/-- Only the last station accepts. -/
theorem accepts_stations_iff (hb : b.Extends (a.pushSlots next slots).1)
    (hnext : a.states[next]? = some (.accept rule index)) {i s : Nat}
    (hi : (a.stations next slots)[i]? = some s) :
    (b.acceptedRule? s).isSome ↔ i = slots.length := by
  induction slots generalizing i with
  | nil =>
      obtain ⟨rfl, rfl⟩ : i = 0 ∧ next = s := by
        simpa [stations, List.getElem?_singleton] using hi
      simp [acceptedRule?, hb.states hnext]
  | cons slot rest ih =>
      cases i with
      | zero =>
          obtain rfl := Option.some.inj hi
          obtain ⟨negated, behind, hconsume⟩ := Extends.exists_consume hb
          simp [acceptedRule?, hconsume]
      | succ i =>
          rw [ih (hb.trans (extends_pushSlot _ _ _)) hi, List.length_cons, Nat.add_right_cancel_iff]

/-- A match stands at the first slot, or it has got past it. -/
theorem exists_station_cons {rest : List Slot} :
    (∃ i, (a.stations next (slot :: rest))[i]? = some goal ∧
      Stands view (slot :: rest) i start pos) ↔
    goal = (a.pushSlots next rest).1.states.size ∧ slot.Waits view start pos ∨
      ∃ cut, slot.Takes view start cut ∧
        ∃ i, (a.stations next rest)[i]? = some goal ∧ Stands view rest i cut pos := by
  rw [← Nat.or_exists_add_one]
  refine or_congr ?_ ?_
  · simp [stations, Stands, eq_comm]
  · constructor
    · rintro ⟨i, hi, cut, htakes, hstands⟩
      exact ⟨cut, htakes, i, hi, hstands⟩
    · rintro ⟨cut, htakes, i, hi, hstands⟩
      exact ⟨i, hi, cut, htakes, hstands⟩

/-- From the state in which slots start, paths lead to their stations only, and there as matches
stand. -/
theorem path_stations (hb : b.Extends (a.pushSlots next slots).1)
    (hnext : a.states[next]? = some (.accept rule index)) (hgoal : Rests b.states goal) :
    b.Path view goal pos (a.pushSlots next slots).2 start ↔
      ∃ i, (a.stations next slots)[i]? = some goal ∧ Stands view slots i start pos := by
  have hlt : next < a.states.size := (Array.getElem?_eq_some_iff.mp hnext).1
  induction slots generalizing start goal with
  | nil =>
      rw [pushSlots, path_of_accept (hb.states hnext)]
      simp [stations, Stands, List.getElem?_singleton, eq_comm]
  | cons slot rest ih =>
      have hrest : b.Extends (a.pushSlots next rest).1 := hb.trans (extends_pushSlot _ _ _)
      rw [exists_station_cons]
      change b.Path view goal pos
        ((a.pushSlots next rest).1.pushSlot slot (a.pushSlots next rest).2).2 start ↔ _
      by_cases hne : goal = (a.pushSlots next rest).1.states.size
      · have hnone (cut : Nat) : ¬∃ i, (a.stations next rest)[i]? = some goal ∧
            Stands view rest i cut pos := by
          rintro ⟨i, hi, -⟩
          exact Nat.lt_irrefl _ (hne ▸ lt_size_of_mem_stations hlt _ (List.mem_of_getElem? hi))
        subst hne
        rw [path_pushSlot_self hb fun start => (ih hrest hgoal).not.mpr (hnone start)]
        simp [hnone]
      · rw [path_pushSlot hb hgoal hne]
        simp [hne, ih hrest hgoal]

/-! ## The stations of all branches -/

/-- A branch with its pattern and its stations. -/
structure Block where
  branch : Branch
  pattern : Pattern
  stations : List Nat

/-- The branch is that of the pattern, also when more is added behind it: from its entry paths lead
to its stations only, and there as matches of the pattern stand. -/
structure Stationed (a : Automaton) (block : Block) : Prop where
  required : block.branch.required = block.pattern.required
  length : block.stations.length = block.pattern.slots.length + 1
  rests : ∀ s ∈ block.stations, Rests a.states s
  accepts {b : Automaton} (hb : b.Extends a) {i s : Nat} (hi : block.stations[i]? = some s) :
    (b.acceptedRule? s).isSome ↔ i = block.pattern.slots.length
  path {b : Automaton} (hb : b.Extends a) {view : TokenView} {goal pos start : Nat}
    (hgoal : Rests b.states goal) : b.Path view goal pos block.branch.entry start ↔
      ∃ i, block.stations[i]? = some goal ∧ Stands view block.pattern.slots i start pos

/-- Every branch has its own stations. -/
structure Divides (a : Automaton) (blocks : List Block) : Prop where
  branches : a.branches = blocks.map Block.branch
  stationed : ∀ block ∈ blocks, a.Stationed block
  nodup : (blocks.flatMap Block.stations).Nodup

variable {block : Block} {blocks : List Block}

theorem Stationed.mono (h : a.Stationed block) (hb : b.Extends a) : b.Stationed block where
  required := h.required
  length := h.length
  rests s hs := by
    obtain ⟨x, hx, hsplit⟩ := h.rests s hs
    exact ⟨x, hb.states hx, hsplit⟩
  accepts hc _ _ hi := h.accepts (hc.trans hb) hi
  path hc _ _ _ _ hgoal := h.path (hc.trans hb) hgoal

/-- A pattern adds a branch, and all of its stations are new. -/
theorem exists_block_pushPattern (a : Automaton) (rule index : Nat) (p : Pattern) :
    ∃ block, block.pattern = p ∧
      (a.pushPattern rule index p).branches = a.branches ++ [block.branch] ∧
      (a.pushPattern rule index p).Stationed block ∧
      block.stations.Nodup ∧ ∀ s ∈ block.stations, a.states.size ≤ s := by
  let begun : Automaton := a.push (.accept rule index)
  let slots := begun.pushSlots a.states.size p.slots
  have hend : begun.states[a.states.size]? = some (.accept rule index) := by simp [begun, push]
  have hlt : a.states.size < begun.states.size := (Array.getElem?_eq_some_iff.mp hend).1
  refine ⟨⟨⟨slots.2, rule, index, p.required⟩, p, begun.stations a.states.size p.slots⟩, rfl, ?_,
    ⟨rfl, length_stations, ?_, ?_, ?_⟩, nodup_stations hlt, le_of_mem_stations hlt⟩
  · exact congrArg (· ++ _) (pushSlots_rest _ _ _).1
  · exact rests_of_mem_stations ⟨id, id⟩ hend
  · intro b hb i s hi
    have hslots : b.Extends slots.1 := ⟨hb.states, hb.conditions⟩
    exact accepts_stations_iff hslots hend hi
  · intro b hb view goal pos start hgoal
    have hslots : b.Extends slots.1 := ⟨hb.states, hb.conditions⟩
    exact path_stations hslots hend hgoal

theorem Divides.pushPattern (h : a.Divides blocks) (rule index : Nat) (p : Pattern) :
    ∃ block, block.pattern = p ∧ (a.pushPattern rule index p).Divides (blocks ++ [block]) := by
  obtain ⟨block, hpattern, hbranches, hblock, hnodup, hnew⟩ :=
    exists_block_pushPattern a rule index p
  refine ⟨block, hpattern, ?_, ?_, ?_⟩
  · rw [hbranches, h.branches, List.map_append, List.map_singleton]
  · intro other hother
    rcases List.mem_append.mp hother with hold | hnew
    · exact (h.stationed other hold).mono (extends_pushPattern a rule index p)
    · rwa [List.mem_singleton.mp hnew]
  · rw [List.flatMap_append, List.flatMap_singleton]
    refine h.nodup.append hnodup fun s hs hs' => ?_
    obtain ⟨other, hother, hmem⟩ := List.mem_flatMap.mp hs
    obtain ⟨x, hx, -⟩ := (h.stationed other hother).rests s hmem
    exact (hnew s hs').not_gt (Array.getElem?_eq_some_iff.mp hx).1

theorem Divides.pushPatterns (h : a.Divides blocks) (rule index : Nat) (ps : List Pattern) :
    ∃ new, new.map Block.pattern = ps ∧
      (a.pushPatterns rule index ps).Divides (blocks ++ new) := by
  induction ps generalizing a blocks index with
  | nil => exact ⟨[], rfl, by simpa [Automaton.pushPatterns] using h⟩
  | cons p ps ih =>
      obtain ⟨block, hpattern, hblock⟩ := h.pushPattern rule index p
      obtain ⟨new, hpatterns, hnew⟩ := ih hblock (index + 1)
      refine ⟨block :: new, by simp [hpattern, hpatterns], ?_⟩
      rwa [List.append_assoc] at hnew

/-- The automaton of rules has a block for each pattern, in order. -/
theorem exists_divides_ofRules (rules : List (TextId × List Pattern)) :
    ∃ blocks, blocks.map Block.pattern = rules.flatMap Prod.snd ∧
      (ofRules rules).Divides blocks := by
  induction rules using List.reverseRecOn with
  | nil => exact ⟨[], rfl, rfl, by simp, .nil⟩
  | append_singleton rules rule ih =>
      obtain ⟨blocks, hpatterns, hblocks⟩ := ih
      let keyed : Automaton := { ofRules rules with keys := (ofRules rules).keys ++ [rule.1] }
      have hkeyed : keyed.Divides blocks :=
        ⟨hblocks.branches, fun block hb => (hblocks.stationed block hb).mono ⟨id, id⟩,
          hblocks.nodup⟩
      obtain ⟨new, hnew, hdivides⟩ := hkeyed.pushPatterns (ofRules rules).keys.length 0 rule.2
      refine ⟨blocks ++ new, by simp [hpatterns, hnew], ?_⟩
      rw [ofRules_append]
      exact hdivides

end Automaton

/-! ## Counting active states -/

/-- The pattern is searched for: it is not left out by a scan. -/
def Pattern.Admitted (p : Pattern) (view : TokenView) (prescan : Bool) : Prop :=
  prescan = true → p.LiteralsOccur view

instance {p : Pattern} {view : TokenView} {prescan : Bool} :
    Decidable (p.Admitted view prescan) :=
  inferInstanceAs (Decidable (prescan = true → p.LiteralsOccur view))

/-- The number of places at which matches stand, if the pattern is searched for. -/
noncomputable def Pattern.standing (p : Pattern) (view : TokenView) (prescan : Bool)
    (start pos : Nat) : Nat :=
  Set.ncard {i | p.Admitted view prescan ∧ Stands view p.slots i start pos}

namespace Automaton

variable {a : Automaton} {view : TokenView} {prescan : Bool} {start pos state : Nat}
  {block : Block} {blocks : List Block} {stands : Pattern → Nat → Prop}

theorem mem_activeBranches_iff {b : Branch} {p : Pattern} (hb : b ∈ a.branches)
    (hrequired : b.required = p.required) :
    b ∈ a.activeBranches view prescan ↔ p.Admitted view prescan := by
  cases prescan with
  | false => simpa [activeBranches, Pattern.Admitted] using hb
  | true =>
      rw [activeBranches, if_pos rfl, List.mem_filter, and_iff_right hb, Prescan.allows_iff hb,
        hrequired, ← Pattern.literalsOccur_iff, Pattern.Admitted, forall_prop_of_true rfl]

/-- A state is active when it is a station at which a match stands. -/
theorem Divides.active_iff (h : a.Divides blocks) :
    a.Active view (a.activeEntries view prescan) start pos state ↔
      ∃ block ∈ blocks, ∃ i, block.stations[i]? = some state ∧
        block.pattern.Admitted view prescan ∧ Stands view block.pattern.slots i start pos := by
  constructor
  · rintro ⟨hrests, entry, hentry, hpath⟩
    obtain ⟨b, hb, rfl⟩ := List.mem_map.mp hentry
    have hbranch := mem_branches_of_mem_activeBranches hb
    have hmem := hbranch
    rw [h.branches] at hmem
    obtain ⟨block, hblock, rfl⟩ := List.mem_map.mp hmem
    have hstationed := h.stationed block hblock
    obtain ⟨i, hi, hstands⟩ := (hstationed.path (.refl a) hrests).mp hpath
    exact ⟨block, hblock, i, hi, (mem_activeBranches_iff hbranch hstationed.required).mp hb,
      hstands⟩
  · rintro ⟨block, hblock, i, hi, hadmitted, hstands⟩
    have hstationed := h.stationed block hblock
    have hrests := hstationed.rests state (List.mem_of_getElem? hi)
    have hb : block.branch ∈ a.branches := h.branches ▸ List.mem_map_of_mem hblock
    refine ⟨hrests, block.branch.entry, List.mem_map_of_mem ?_, ?_⟩
    · exact (mem_activeBranches_iff hb hstationed.required).mpr hadmitted
    · exact (hstationed.path (.refl a) hrests).mpr ⟨i, hi, hstands⟩

theorem Divides.accepting_iff (h : a.Divides blocks) (hpos : pos ≤ view.size) :
    a.Active view (a.activeEntries view prescan) start pos state ∧
        (a.acceptedRule? state).isSome ↔
      ∃ block ∈ blocks, ∃ i, block.stations[i]? = some state ∧
        i = block.pattern.slots.length ∧ block.pattern.Matches view start pos := by
  rw [h.active_iff]
  constructor
  · rintro ⟨⟨block, hblock, i, hi, -, hstands⟩, haccepts⟩
    obtain rfl := ((h.stationed block hblock).accepts (.refl a) hi).mp haccepts
    exact ⟨block, hblock, _, hi, rfl, stands_length_iff.mp hstands⟩
  · rintro ⟨block, hblock, i, hi, rfl, hmatches⟩
    refine ⟨⟨block, hblock, _, hi, ?_, stands_length_iff.mpr hmatches⟩, ?_⟩
    · exact fun _ => hmatches.literalsOccur hpos
    · exact ((h.stationed block hblock).accepts (.refl a) hi).mpr rfl

/-- The stations of a branch are as many as the places in its pattern. -/
theorem Stationed.ncard (h : a.Stationed block) (hnodup : block.stations.Nodup)
    (hle : ∀ p i, stands p i → i ≤ p.slots.length) :
    Set.ncard {s | ∃ i, block.stations[i]? = some s ∧ stands block.pattern i} =
      Set.ncard {i | stands block.pattern i} := by
  have hlt {i : Nat} (hi : stands block.pattern i) : i < block.stations.length := by
    rw [h.length]
    exact Nat.lt_succ_of_le (hle _ _ hi)
  symm
  refine Set.ncard_congr (fun i hi => block.stations.get ⟨i, hlt hi⟩) ?_ ?_ ?_
  · intro i hi
    exact ⟨i, List.getElem?_eq_getElem (hlt hi), hi⟩
  · intro i j hi hj heq
    exact hnodup.getElem_inj_iff.mp heq
  · rintro s ⟨i, hi, hstands⟩
    exact ⟨i, hstands, (List.getElem?_eq_some_iff.mp hi).2⟩

/-- Since branches share no stations, those of all branches add up. -/
theorem ncard_stationed (stands : Pattern → Nat → Prop) (h : ∀ block ∈ blocks, a.Stationed block)
    (hnodup : (blocks.flatMap Block.stations).Nodup)
    (hle : ∀ p i, stands p i → i ≤ p.slots.length) :
    Set.ncard {s | ∃ block ∈ blocks, ∃ i, block.stations[i]? = some s ∧ stands block.pattern i} =
      ((blocks.map Block.pattern).map fun p => Set.ncard {i | stands p i}).sum := by
  induction blocks with
  | nil => simp
  | cons block blocks ih =>
      rw [List.flatMap_cons, List.nodup_append'] at hnodup
      obtain ⟨hfirst, hrest, hdisjoint⟩ := hnodup
      obtain ⟨hblock, hblocks⟩ := List.forall_mem_cons.mp h
      let own : Set Nat := {s | ∃ i, block.stations[i]? = some s ∧ stands block.pattern i}
      let others : Set Nat :=
        {s | ∃ block ∈ blocks, ∃ i, block.stations[i]? = some s ∧ stands block.pattern i}
      have hown : own ⊆ {s | s ∈ block.stations} := by
        rintro s ⟨i, hi, -⟩
        exact List.mem_of_getElem? hi
      have hothers : others ⊆ {s | s ∈ blocks.flatMap Block.stations} := by
        rintro s ⟨other, hother, i, hi, -⟩
        exact List.mem_flatMap.mpr ⟨other, hother, List.mem_of_getElem? hi⟩
      have hapart : Disjoint own others :=
        Set.disjoint_left.mpr fun s hs hs' => hdisjoint (hown hs) (hothers hs')
      have hunion : {s | ∃ other ∈ block :: blocks,
          ∃ i, other.stations[i]? = some s ∧ stands other.pattern i} = own ∪ others := by
        ext s
        simp [own, others]
      rw [hunion, Set.ncard_union_eq hapart ((List.finite_toSet _).subset hown)
        ((List.finite_toSet _).subset hothers), ih hblocks hrest, hblock.ncard hfirst hle]
      simp

/-! ## Pattern by pattern -/

/-- The active states are counted pattern by pattern. -/
theorem activeCount_ofRules (rules : List (TextId × List Pattern)) :
    (ofRules rules).activeCount view ((ofRules rules).activeEntries view prescan) start pos =
      ((rules.flatMap Prod.snd).map (·.standing view prescan start pos)).sum := by
  obtain ⟨blocks, hpatterns, h⟩ := exists_divides_ofRules rules
  rw [← hpatterns, activeCount]
  simp only [h.active_iff]
  exact ncard_stationed (fun p i => p.Admitted view prescan ∧ Stands view p.slots i start pos)
    h.stationed h.nodup fun _ _ hstands => hstands.2.le_length

/-- Every pattern that matches the tokens has one accepting state that is active. -/
theorem acceptCount_ofRules (rules : List (TextId × List Pattern)) (hpos : pos ≤ view.size) :
    (ofRules rules).acceptCount view ((ofRules rules).activeEntries view prescan) start pos =
      ((rules.flatMap Prod.snd).map fun p => if p.Matches view start pos then 1 else 0).sum := by
  obtain ⟨blocks, hpatterns, h⟩ := exists_divides_ofRules rules
  have hone (p : Pattern) : Set.ncard {i | i = p.slots.length ∧ p.Matches view start pos} =
      if p.Matches view start pos then 1 else 0 := by
    split <;> simp [*]
  rw [← hpatterns, acceptCount]
  simp only [h.accepting_iff hpos, ← hone]
  exact ncard_stationed (fun p i => i = p.slots.length ∧ p.Matches view start pos)
    h.stationed h.nodup fun _ _ hstands => hstands.1.le

end Automaton

end SpanRules
