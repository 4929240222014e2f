import SpanRules.Proofs.Automaton.Frontier

/-! # Adding states round by round

Adding a state is a loop over a stack of pending states. Every round takes the top of the stack: a
state that has been visited is dropped, a split is replaced by the two states it goes on in, and
any other state is listed. However the splits are linked, the rounds come to an end with an empty
stack.
-/

namespace SpanRules.Frontier

/-- The loop between two rounds. -/
structure Worklist where
  frontier : Frontier
  /-- The stack, its top first. -/
  pending : List Nat
  /-- How many states have been listed since the loop began. -/
  listed : Nat

/-- One round of the loop. A state outside the arena on top of the stack stops it. -/
inductive Round (states : Array State) : Worklist → Worklist → Prop
  | drop {f : Frontier} {state : Nat} {pending : List Nat} {listed : Nat}
      (hvisited : f.visited state = true) :
      Round states ⟨f, state :: pending, listed⟩ ⟨f, pending, listed⟩
  | fork {f : Frontier} {state first second : Nat} {pending : List Nat} {listed : Nat}
      (hopen : f.Open state) (hs : states[state]? = some (.split first second)) :
      Round states ⟨f, state :: pending, listed⟩
        ⟨f.visit state, first :: second :: pending, listed⟩
  | list {f : Frontier} {state : Nat} {pending : List Nat} {listed : Nat}
      (hopen : f.Open state) (hrests : Rests states state) :
      Round states ⟨f, state :: pending, listed⟩
        ⟨(f.visit state).insert state, pending, listed + 1⟩

/-- Rounds lead from one state of the loop to the other. -/
def Rounds (states : Array State) : Worklist → Worklist → Prop :=
  Relation.ReflTransGen (Round states)

/-- The loop that adds a state before its first round. -/
def adding (f : Frontier) (state : Nat) : Worklist :=
  ⟨f, [state], 0⟩

/-- Adding the state takes another one from the stack. -/
def Visits (f : Frontier) (states : Array State) (state other : Nat) : Prop :=
  ∃ w, Rounds states (f.adding state) w ∧ w.pending.head? = some other

variable {states : Array State} {f g : Frontier} {state s : Nat} {pending others : List Nat}
  {listed : Nat} {w v u : Worklist}

/-! ## Equations of exploring -/

theorem explore_of_visited (h : f.visited state = true) :
    explore states f (state :: pending) = explore states f pending := by
  have hclosed : ¬(state < f.stamps.size ∧ f.visited state = false) := by simp [h]
  rw [explore, dif_neg hclosed]

theorem explore_of_split {first second : Nat} (hopen : f.Open state)
    (hs : states[state]? = some (.split first second)) :
    explore states f (state :: pending) =
      explore states (f.visit state) (first :: second :: pending) := by
  rw [explore, dif_pos ⟨hopen.1, hopen.2⟩]
  simp only [hs]

theorem explore_of_rests (hopen : f.Open state) (hrests : Rests states state) :
    explore states f (state :: pending) =
      explore states ((f.visit state).insert state) pending := by
  obtain ⟨x, hx, hsplit⟩ := hrests
  rw [explore, dif_pos ⟨hopen.1, hopen.2⟩]
  cases x with
  | split first second => exact absurd rfl (hsplit first second)
  | consume condition negated next => simp only [hx]
  | accept rule pattern => simp only [hx]

/-! ## One round -/

theorem not_round_of_pending_eq_nil (h : w.pending = []) : ¬Round states w v := by
  intro hround
  cases hround <;> cases h

/-- What a round does is determined. -/
theorem Round.unique (h : Round states w v) (h' : Round states w u) : v = u := by
  cases h with
  | drop hvisited =>
      cases h' with
      | drop => rfl
      | fork hopen _ => exact absurd hvisited (Bool.eq_false_iff.mp hopen.2)
      | list hopen _ => exact absurd hvisited (Bool.eq_false_iff.mp hopen.2)
  | fork hopen hs =>
      cases h' with
      | drop hvisited => exact absurd hvisited (Bool.eq_false_iff.mp hopen.2)
      | fork _ hs' =>
          obtain ⟨rfl, rfl⟩ := State.split.inj (Option.some.inj (hs.symm.trans hs'))
          rfl
      | list _ hrests => exact absurd rfl (hrests.ne_of_split hs)
  | list hopen hrests =>
      cases h' with
      | drop hvisited => exact absurd hvisited (Bool.eq_false_iff.mp hopen.2)
      | fork _ hs => exact absurd rfl (hrests.ne_of_split hs)
      | list => rfl

/-- A round that visits a state leaves fewer unvisited, and any other round a shorter stack. -/
theorem wellFounded_round (states : Array State) :
    WellFounded fun v w => Round states w v := by
  let measure (w : Worklist) : Nat × Nat := (w.frontier.unvisitedCount, w.pending.length)
  apply Subrelation.wf _ (InvImage.wf measure (Prod.lex Nat.lt_wfRel Nat.lt_wfRel).wf)
  intro v w h
  cases h with
  | drop => exact Prod.Lex.right _ (Nat.lt_succ_self _)
  | fork hopen _ => exact Prod.Lex.left _ _ (unvisitedCount_visit_lt hopen.1 hopen.2)
  | list hopen _ => exact Prod.Lex.left _ _ (unvisitedCount_visit_lt hopen.1 hopen.2)

/-- A round visits the top of the stack and nothing else. -/
theorem Round.visited_iff (h : Round states w v) :
    v.frontier.visited s = true ↔ w.frontier.visited s = true ∨ w.pending.head? = some s := by
  cases h with
  | @drop f state _ _ hvisited =>
      rw [List.head?_cons, Option.some.injEq, iff_self_or]
      intro hs
      rwa [← hs]
  | fork hopen _ =>
      rw [List.head?_cons, Option.some.injEq, or_comm, eq_comm (b := s)]
      exact visited_visit hopen.1
  | list hopen _ =>
      rw [List.head?_cons, Option.some.injEq, or_comm, eq_comm (b := s)]
      exact visited_visit hopen.1

/-- What is listed is counted. -/
theorem Round.length_members (h : Round states w v) :
    v.frontier.members.length + w.listed = w.frontier.members.length + v.listed := by
  cases h with
  | drop => rfl
  | fork => rfl
  | list =>
      simp only [insert, visit, List.length_append, List.length_singleton]
      omega

/-- A round is a step of the exploration. -/
theorem Round.explore_eq (h : Round states w v) :
    explore states w.frontier w.pending = explore states v.frontier v.pending := by
  cases h with
  | drop hvisited => exact explore_of_visited hvisited
  | fork hopen hs => exact explore_of_split hopen hs
  | list hopen hrests => exact explore_of_rests hopen hrests

/-! ## All rounds -/

/-- The stamps are those of the arena, and the stack holds states of the arena. -/
structure Worklist.Inside (states : Array State) (w : Worklist) : Prop where
  size : w.frontier.stamps.size = states.size
  pending : ∀ s ∈ w.pending, s < states.size

/-- Splits lead to states of the arena. -/
def ForksInside (states : Array State) : Prop :=
  ∀ s t, Forks states s t → t < states.size

/-- The states that a split leads to. -/
def targetsOf : State → List Nat
  | .split first second => [first, second]
  | _ => []

theorem forks_iff {t : Nat} : Forks states s t ↔ ∃ x, states[s]? = some x ∧ t ∈ targetsOf x := by
  constructor
  · intro hfork
    obtain ⟨first, second, hs, ht⟩ := hfork
    exact ⟨_, hs, by simpa [targetsOf] using ht⟩
  · intro htarget
    obtain ⟨x, hs, ht⟩ := htarget
    cases x with
    | split first second => exact ⟨first, second, hs, by simpa [targetsOf] using ht⟩
    | consume condition negated next => cases ht
    | accept rule pattern => cases ht

instance (states : Array State) : Decidable (ForksInside states) :=
  decidable_of_iff (∀ x ∈ states.toList, ∀ t ∈ targetsOf x, t < states.size) <| by
    simp only [ForksInside, forks_iff, Array.mem_toList_iff, Array.mem_iff_getElem?]
    constructor
    · intro h s t htarget
      obtain ⟨x, hs, ht⟩ := htarget
      exact h x ⟨s, hs⟩ t ht
    · intro h x hx t ht
      obtain ⟨s, hs⟩ := hx
      exact h s t ⟨x, hs, ht⟩

/-- Inside the arena the loop stops only when the stack is empty. -/
theorem Worklist.Inside.exists_round (h : w.Inside states) (hne : w.pending ≠ []) :
    ∃ v, Round states w v := by
  obtain ⟨f, pending, listed⟩ := w
  obtain ⟨state, pending, rfl⟩ := List.exists_cons_of_ne_nil hne
  have hlt : state < states.size := h.pending state List.mem_cons_self
  cases hvisited : f.visited state with
  | true => exact ⟨_, .drop hvisited⟩
  | false =>
      have hopen : f.Open state := ⟨h.size ▸ hlt, hvisited⟩
      have hget : states[state]? = some states[state] := Array.getElem?_eq_getElem hlt
      cases hs : states[state] with
      | split first second => exact ⟨_, .fork hopen (hs ▸ hget)⟩
      | consume condition negated next => exact ⟨_, .list hopen (rests_of_consume (hs ▸ hget))⟩
      | accept rule pattern => exact ⟨_, .list hopen (rests_of_accept (hs ▸ hget))⟩

theorem Round.inside (h : Round states w v) (hforks : ForksInside states)
    (hw : w.Inside states) : v.Inside states := by
  obtain ⟨hsize, hpending⟩ := hw
  cases h with
  | drop => exact ⟨hsize, (List.forall_mem_cons.mp hpending).2⟩
  | @fork f state first second _ _ _ hs =>
      refine ⟨by simpa [visit] using hsize, ?_⟩
      have hfirst : first < states.size := hforks state first ⟨first, second, hs, Or.inl rfl⟩
      have hsecond : second < states.size := hforks state second ⟨first, second, hs, Or.inr rfl⟩
      exact List.forall_mem_cons.mpr ⟨hfirst,
        List.forall_mem_cons.mpr ⟨hsecond, (List.forall_mem_cons.mp hpending).2⟩⟩
  | list => exact ⟨by simpa [insert, visit] using hsize, (List.forall_mem_cons.mp hpending).2⟩

/-- The rounds lead to an empty stack, and what they leave is what exploring the stack makes of the
frontier. -/
theorem Worklist.Inside.rounds_explore (h : w.Inside states) (hforks : ForksInside states) :
    ∃ listed, Rounds states w ⟨explore states w.frontier w.pending, [], listed⟩ ∧
      (explore states w.frontier w.pending).members.length + w.listed =
        w.frontier.members.length + listed := by
  induction w using (wellFounded_round states).induction with
  | _ w ih =>
      by_cases hnil : w.pending = []
      · obtain ⟨f, pending, listed⟩ := w
        obtain rfl : pending = [] := hnil
        exact ⟨listed, by rw [explore]; exact .refl, by rw [explore]⟩
      · obtain ⟨v, hround⟩ := h.exists_round hnil
        obtain ⟨listed, hrounds, hcount⟩ := ih v hround (hround.inside hforks h)
        have hfirst := hround.length_members
        rw [hround.explore_eq]
        exact ⟨listed, .head hround hrounds, by omega⟩

/-- Rounds that have begun lead to where all rounds lead. -/
theorem Rounds.confluent (hw : Rounds states w v) (hu : Rounds states w u) (hend : u.pending = []) :
    Rounds states v u := by
  have hunique : Relator.RightUnique (Round states) := fun _ _ _ => Round.unique
  rcases Relation.ReflTransGen.total_of_right_unique hunique hw hu with hvu | huv
  · exact hvu
  · rcases huv.cases_head with rfl | ⟨x, hround, -⟩
    · exact .refl
    · exact absurd hround (not_round_of_pending_eq_nil hend)

/-- What has been visited in the end was visited before or is taken from the stack on the way. -/
theorem Rounds.visited_iff (h : Rounds states w v) (hend : v.pending = []) :
    v.frontier.visited s = true ↔ w.frontier.visited s = true ∨
      ∃ u, Rounds states w u ∧ u.pending.head? = some s := by
  induction h using Relation.ReflTransGen.head_induction_on with
  | refl =>
      refine (or_iff_left ?_).symm
      rintro ⟨u, hrounds, htop⟩
      rcases hrounds.cases_head with rfl | ⟨x, hround, -⟩
      · simp [hend] at htop
      · exact not_round_of_pending_eq_nil hend hround
  | @head w x hround hrounds ih =>
      rw [ih, hround.visited_iff, or_assoc]
      refine or_congr_right ?_
      constructor
      · rintro (htop | ⟨u, hu, htop⟩)
        · exact ⟨w, .refl, htop⟩
        · exact ⟨u, .head hround hu, htop⟩
      · rintro ⟨u, hu, htop⟩
        rcases hu.cases_head with rfl | ⟨y, hround', hu⟩
        · exact Or.inl htop
        · exact Or.inr ⟨u, hround'.unique hround ▸ hu, htop⟩

/-! ## One addition -/

theorem inside_adding (hsize : f.stamps.size = states.size) (hstate : state < states.size) :
    (f.adding state).Inside states where
  size := hsize
  pending := List.forall_mem_singleton.mpr hstate

theorem getElem?_stamps_visit (hlt : state < f.stamps.size)
    (h : (f.visit state).visited s = false) : (f.visit state).stamps[s]? = f.stamps[s]? := by
  have hne : state ≠ s := by
    rintro rfl
    exact Bool.false_ne_true (h.symm.trans ((visited_visit hlt).mpr (Or.inl rfl)))
  exact Array.getElem?_setIfInBounds_ne hne

/-- A state that is not visited keeps its stamp. -/
theorem getElem?_stamps_explore (h : (explore states f pending).visited s = false) :
    (explore states f pending).stamps[s]? = f.stamps[s]? := by
  have hkept {f : Frontier} {pending : List Nat}
      (h : (explore states f pending).visited s = false) : f.visited s = false := by
    rw [← Bool.not_eq_true] at h ⊢
    exact mt (explored_explore states f pending).keeps h
  fun_induction explore states f pending with
  | case1 f => rfl
  | case2 f state pending hopen first second hs ih =>
      exact (ih h).trans (getElem?_stamps_visit hopen.1 (hkept h))
  | case3 f state pending hopen x hsplit hs ih =>
      have hlisted := hkept h
      exact (ih h).trans (getElem?_stamps_visit hopen.1 hlisted)
  | case4 f state pending hopen hs ih =>
      exact (ih h).trans (getElem?_stamps_visit hopen.1 (hkept h))
  | case5 f state pending hopen ih => exact ih h

/-- What adding a state makes of a frontier. What splits lead to from the state along states that
have not been visited is stamped and, where it rests, listed behind the others; all else stays. -/
structure Added (states : Array State) (f : Frontier) (state : Nat) (found : List Nat)
    (g : Frontier) : Prop where
  members : g.members = f.members ++ found
  nodup : found.Nodup
  found {s : Nat} : s ∈ found ↔ Rests states s ∧ f.Reaches states state s
  generation : g.generation = f.generation
  stamped {s : Nat} : f.Reaches states state s → g.stamps[s]? = some f.generation
  kept {s : Nat} : ¬f.Reaches states state s → g.stamps[s]? = f.stamps[s]?

theorem exists_added (states : Array State) (f : Frontier) (state : Nat) :
    ∃ found, f.Added states state found (f.add states state) := by
  have h := explored_explore states f [state]
  have hvisited {s : Nat} : (f.add states state).visited s = true ↔
      f.visited s = true ∨ f.Reaches states state s := by
    rw [add, h.visited_iff]
    simp only [List.mem_singleton, exists_eq_left]
  obtain ⟨found, hmembers, hnodup, hfound⟩ := h.members
  refine ⟨found, hmembers, hnodup, ?_, h.generation, ?_, ?_⟩
  · intro s
    rw [hfound]
    constructor
    · intro hnew
      obtain ⟨hunvisited, hnow, hrests⟩ := hnew
      rcases hvisited.mp hnow with hbefore | hreaches
      · exact absurd hbefore (Bool.eq_false_iff.mp hunvisited)
      · exact ⟨hrests, hreaches⟩
    · intro hreached
      obtain ⟨hrests, hreaches⟩ := hreached
      exact ⟨hreaches.open_goal.2, hvisited.mpr (Or.inr hreaches), hrests⟩
  · intro s hreaches
    rw [← h.generation]
    exact of_decide_eq_true (hvisited.mpr (Or.inr hreaches))
  · intro s hreaches
    cases hnow : (f.add states state).visited s with
    | false => exact getElem?_stamps_explore hnow
    | true =>
        have hbefore := (hvisited.mp hnow).resolve_right hreaches
        rw [of_decide_eq_true hnow, of_decide_eq_true hbefore]
        exact congrArg some h.generation

/-! ## Several additions -/

/-- Exploring one stack after the other is exploring both in a row. -/
theorem explore_append (states : Array State) (f : Frontier) (pending others : List Nat) :
    explore states f (pending ++ others) = explore states (explore states f pending) others := by
  fun_induction explore states f pending with
  | case1 f => rfl
  | case2 f state pending hopen first second hs ih =>
      rw [List.cons_append, explore_of_split hopen hs]
      exact ih
  | case3 f state pending hopen x hsplit hs ih =>
      rw [List.cons_append, explore_of_rests hopen ⟨x, hs, hsplit⟩]
      exact ih
  | case4 f state pending hopen hs ih =>
      rw [List.cons_append, explore, dif_pos hopen]
      simpa only [hs] using ih
  | case5 f state pending hopen ih =>
      rw [List.cons_append, explore, dif_neg hopen]
      exact ih

theorem addAll_eq_explore (states : Array State) (f : Frontier) (seeds : List Nat) :
    f.addAll states seeds = explore states f seeds := by
  induction seeds generalizing f with
  | nil =>
      rw [explore]
      rfl
  | cons seed seeds ih =>
      calc f.addAll states (seed :: seeds) = (f.add states seed).addAll states seeds := rfl
        _ = explore states (f.add states seed) seeds := ih _
        _ = explore states f (seed :: seeds) := (explore_append states f [seed] seeds).symm

/-- No stamp is current and nothing is listed. -/
structure Fresh (f : Frontier) : Prop where
  stamps {x : UInt32} : x ∈ f.stamps → x ≠ f.generation
  members : f.members = []

theorem Fresh.visited (h : f.Fresh) (s : Nat) : f.visited s = false := by
  apply decide_eq_false
  intro hs
  exact h.stamps (Array.mem_of_getElem? hs) rfl

/-- In a fresh frontier nothing stands in the way of splits. -/
theorem Fresh.reaches_iff (h : f.Fresh) (hforks : ForksInside states)
    (hsize : f.stamps.size = states.size) (hstate : state < states.size) :
    f.Reaches states state s ↔ Closure states state s := by
  have hopen {t : Nat} (ht : t < states.size) : f.Open t := ⟨hsize ▸ ht, h.visited t⟩
  refine ⟨Reaches.closure, fun hclosure => ⟨hopen hstate, ?_⟩⟩
  exact Relation.ReflTransGen.mono (fun a b hfork => ⟨hfork, hopen (hforks a b hfork)⟩) _ _ hclosure

/-- Additions to a fresh frontier list the closure of all their starts, each state once. -/
theorem Fresh.addAll (h : f.Fresh) (hforks : ForksInside states)
    (hsize : f.stamps.size = states.size) {seeds : List Nat}
    (hseeds : ∀ p ∈ seeds, p < states.size) :
    (f.addAll states seeds).members.Nodup ∧ ∀ s, s ∈ (f.addAll states seeds).members ↔
      Rests states s ∧ ∃ p ∈ seeds, Closure states p s := by
  have hexplored := explored_explore states f seeds
  obtain ⟨found, hmembers, hnodup, hfound⟩ := hexplored.members
  rw [addAll_eq_explore, hmembers, h.members, List.nil_append]
  refine ⟨hnodup, fun s => ?_⟩
  rw [hfound, hexplored.visited_iff, h.visited]
  simp only [true_and, Bool.false_eq_true, false_or]
  rw [and_comm]
  refine and_congr_right fun _ => exists_congr fun p => and_congr_right fun hp => ?_
  exact h.reaches_iff hforks hsize (hseeds p hp)

/-- However its splits are linked, an arena with all links inside is explored in finitely many
rounds, and they end with an empty stack. An addition lists exactly what rests where splits lead to
along states that have not been visited, each once, counts it, and stamps what it reaches. So
additions to a fresh frontier list the closure of their starts without repetition, in whatever
order they come. -/
theorem add_lists_closure (states : Array State) (hforks : ForksInside states) :
    (∀ (f : Frontier) (state : Nat), f.stamps.size = states.size → state < states.size →
      Acc (fun v w => Round states w v) (f.adding state) ∧
      ∃ found, f.Added states state found (f.add states state) ∧
        ∀ w, Rounds states (f.adding state) w →
          Rounds states w ⟨f.add states state, [], found.length⟩) ∧
    ∀ (f : Frontier) (seeds : List Nat), f.Fresh → f.stamps.size = states.size →
      (∀ p ∈ seeds, p < states.size) →
      (f.addAll states seeds).members.Nodup ∧
      (∀ s, s ∈ (f.addAll states seeds).members ↔
        Rests states s ∧ ∃ p ∈ seeds, Closure states p s) ∧
      ∀ others, others.Perm seeds →
        (f.addAll states others).members.Perm (f.addAll states seeds).members := by
  constructor
  · intro f state hsize hstate
    refine ⟨(wellFounded_round states).apply _, ?_⟩
    obtain ⟨found, hadded⟩ := exists_added states f state
    obtain ⟨listed, hrounds, hcount⟩ := (inside_adding hsize hstate).rounds_explore hforks
    have hlisted : listed = found.length := by
      have hlength := congrArg List.length hadded.members
      rw [List.length_append] at hlength
      exact (Nat.add_left_cancel (hlength.symm.trans hcount)).symm
    subst hlisted
    exact ⟨found, hadded, fun w hw => hw.confluent hrounds rfl⟩
  · intro f seeds hfresh hsize hseeds
    obtain ⟨hnodup, hmem⟩ := hfresh.addAll hforks hsize hseeds
    refine ⟨hnodup, hmem, fun others hperm => ?_⟩
    obtain ⟨hnodup', hmem'⟩ := hfresh.addAll hforks hsize fun p hp => hseeds p (hperm.mem_iff.mp hp)
    apply (List.perm_ext_iff_of_nodup hnodup' hnodup).mpr
    intro s
    simp only [hmem, hmem', hperm.mem_iff]

/-- Two splits lead to each other, and one of two resting states is listed before. -/
theorem add_lists_closure_split_cycle :
    let states : Array State := #[.split 1 2, .split 0 3, .consume 0 false 0, .accept 0 0]
    let f : Frontier := { stamps := #[0, 7, 5, 0], generation := 5, members := [2] }
    (ForksInside states ∧ f.stamps.size = states.size ∧ 0 < states.size ∧ (start 4).Fresh ∧
      (start 4).stamps.size = states.size ∧ ∀ p ∈ [1, 0], p < states.size) ∧
    (f.add states 0).members = [2, 3] ∧
    (∃ found, f.Added states 0 found (f.add states 0) ∧
      ∀ w, Rounds states (f.adding 0) w → Rounds states w ⟨f.add states 0, [], found.length⟩) ∧
    ∀ s, s ∈ ((start 4).addAll states [1, 0]).members ↔
      Rests states s ∧ ∃ p ∈ [1, 0], Closure states p s := by
  intro states f
  have hforks : ForksInside states := by decide
  have hfresh : (start 4).Fresh :=
    ⟨fun hx => Array.eq_of_mem_replicate hx ▸ by decide, rfl⟩
  have hseeds : ∀ p ∈ [1, 0], p < states.size := by decide
  obtain ⟨hadds, hcloses⟩ := add_lists_closure states hforks
  have hmembers : (f.add states 0).members = [2, 3] := by cbv
  exact ⟨⟨hforks, rfl, by decide, hfresh, rfl, hseeds⟩, hmembers,
    (hadds f 0 rfl (by decide)).2, (hcloses (start 4) [1, 0] hfresh rfl hseeds).2.1⟩

end SpanRules.Frontier
