import Mathlib.Data.List.Induction
import SpanRules.Proofs.Automaton.Rounds

/-! # Generations

A search has one frontier, which it renews for every set of active states and adds states to in
between. The generations are numbers of 32 bits and start again when they are used up. Still a stamp
is current exactly when its state has been visited since the last renewal, however often the
frontier is renewed.
-/

namespace SpanRules.Frontier

/-- What a search does with its frontier. -/
inductive Use
  | renew
  | add (states : Array State) (state : Nat)

namespace Use

def isRenewal : Use → Bool
  | .renew => true
  | .add _ _ => false

/-- The state that is added lies in an arena of this size, and splits lead to states of the
arena. -/
def Inside (size : Nat) : Use → Prop
  | .renew => True
  | .add states state => states.size = size ∧ state < size ∧ ForksInside states

end Use

def use (f : Frontier) : Use → Frontier
  | .renew => f.renew
  | .add states state => f.add states state

/-- The frontier after uses in order. -/
def useAll (f : Frontier) (uses : List Use) : Frontier :=
  uses.foldl use f

/-- One of the additions visits the state, and none of the uses behind it is a renewal. -/
def VisitedSince (f : Frontier) (uses : List Use) (s : Nat) : Prop :=
  ∃ before states state after, uses = before ++ .add states state :: after ∧
    .renew ∉ after ∧ (f.useAll before).Visits states state s

variable {f : Frontier} {states : Array State} {state s size : Nat} {uses : List Use} {u : Use}

theorem useAll_concat (f : Frontier) (uses : List Use) (u : Use) :
    f.useAll (uses ++ [u]) = (f.useAll uses).use u := by
  rw [useAll, useAll, List.foldl_append]
  rfl

/-! ## Since the last renewal -/

theorem not_visitedSince_nil : ¬f.VisitedSince [] s := by
  intro h
  obtain ⟨before, states, state, after, huses, -⟩ := h
  simp at huses

/-- A renewal forgets all visits. -/
theorem not_visitedSince_renew : ¬f.VisitedSince (uses ++ [.renew]) s := by
  intro h
  obtain ⟨before, states, state, after, huses, hafter, -⟩ := h
  rcases after.eq_nil_or_concat with rfl | ⟨rest, last, rfl⟩
  · cases (List.append_inj' huses rfl).2
  · rw [List.concat_eq_append, ← List.cons_append, ← List.append_assoc] at huses
    obtain rfl := List.singleton_inj.mp (List.append_inj' huses rfl).2
    exact hafter (by simp)

/-- An addition adds its own visits to those before. -/
theorem visitedSince_add : f.VisitedSince (uses ++ [.add states state]) s ↔
    f.VisitedSince uses s ∨ (f.useAll uses).Visits states state s := by
  constructor
  · intro h
    obtain ⟨before, states', state', after, huses, hafter, hvisits⟩ := h
    rcases after.eq_nil_or_concat with rfl | ⟨rest, last, rfl⟩
    · obtain ⟨rfl, hlast⟩ := List.append_inj' huses rfl
      obtain ⟨rfl, rfl⟩ := Use.add.inj (List.singleton_inj.mp hlast)
      exact Or.inr hvisits
    · rw [List.concat_eq_append, ← List.cons_append, ← List.append_assoc] at huses
      obtain ⟨rfl, -⟩ := List.append_inj' huses rfl
      have hrest : .renew ∉ rest := fun hmem => hafter (by simp [hmem])
      exact Or.inl ⟨before, states', state', rest, rfl, hrest, hvisits⟩
  · intro h
    rcases h with ⟨before, states', state', after, rfl, hafter, hvisits⟩ | hvisits
    · exact ⟨before, states', state', after ++ [.add states state], by simp, by simp [hafter],
        hvisits⟩
    · exact ⟨uses, states, state, [], rfl, List.not_mem_nil, hvisits⟩

/-! ## One use -/

theorem visited_add_iff (hsize : f.stamps.size = states.size) (hstate : state < states.size)
    (hforks : ForksInside states) :
    (f.add states state).visited s = true ↔ f.visited s = true ∨ f.Visits states state s := by
  obtain ⟨listed, hrounds, -⟩ := (inside_adding hsize hstate).rounds_explore hforks
  exact hrounds.visited_iff rfl

theorem WellStamped.use (h : f.WellStamped) (u : Use) : (f.use u).WellStamped := by
  cases u with
  | renew => exact h.renew
  | add states state => exact (explored_explore states f [state]).wellStamped h

theorem size_stamps_use (f : Frontier) (u : Use) : (f.use u).stamps.size = f.stamps.size := by
  cases u with
  | renew => exact size_stamps_renew
  | add states state => exact (explored_explore states f [state]).size

/-- There are as many generations as numbers, but for the one that marks unvisited states. -/
theorem toNat_generation_renew (h : f.generation ≠ unvisited) :
    f.renew.generation.toNat = (f.generation.toNat + 1) % 4294967295 := by
  have hlt := f.generation.toNat_lt
  have hne : f.generation.toNat ≠ 4294967295 := fun hx => h (UInt32.toNat_inj.mp hx)
  have hnext : (f.generation + 1).toNat = f.generation.toNat + 1 := by
    rw [UInt32.toNat_add, UInt32.toNat_one, Nat.mod_eq_of_lt]
    omega
  unfold renew
  dsimp only
  split
  · rename_i hlast
    have hlast := congrArg UInt32.toNat hlast
    rw [hnext] at hlast
    rw [hlast]
    rfl
  · rename_i hmore
    have hmore : f.generation.toNat + 1 ≠ 4294967295 := by
      rw [← hnext]
      exact fun hx => hmore (UInt32.toNat_inj.mp hx)
    rw [hnext, Nat.mod_eq_of_lt]
    omega

theorem toNat_generation_use (h : f.WellStamped) (u : Use) :
    (f.use u).generation.toNat =
      (f.generation.toNat + if u.isRenewal then 1 else 0) % 4294967295 := by
  cases u with
  | renew => exact toNat_generation_renew h.generation
  | add states state =>
      have hlt := f.generation.toNat_lt
      have hne : f.generation.toNat ≠ 4294967295 := fun hx => h.generation (UInt32.toNat_inj.mp hx)
      rw [use, add, (explored_explore states f [state]).generation]
      simp only [Use.isRenewal, Bool.false_eq_true, if_false, Nat.add_zero]
      rw [Nat.mod_eq_of_lt]
      omega

/-! ## All uses -/

/-- What holds of a frontier that has been used since the start of a search. -/
structure UsedFrom (count : Nat) (uses : List Use) (f : Frontier) : Prop where
  size : f.stamps.size = count
  stamped : f.WellStamped
  generation : f.generation.toNat = uses.countP Use.isRenewal % 4294967295
  visited {s : Nat} : f.visited s = true ↔ (start count).VisitedSince uses s

theorem usedFrom_start (count : Nat) : (start count).UsedFrom count [] where
  size := Array.size_replicate
  stamped := wellStamped_start count
  generation := rfl
  visited := by
    refine iff_of_false ?_ not_visitedSince_nil
    intro hvisited
    have hmem := Array.mem_of_getElem? (of_decide_eq_true hvisited)
    exact absurd (Array.eq_of_mem_replicate hmem) (by decide : (0 : UInt32) ≠ unvisited)

theorem UsedFrom.use {count : Nat} (h : ((start count).useAll uses).UsedFrom count uses)
    (hu : u.Inside count) :
    ((start count).useAll (uses ++ [u])).UsedFrom count (uses ++ [u]) := by
  rw [useAll_concat]
  refine ⟨(size_stamps_use _ u).trans h.size, h.stamped.use u, ?_, ?_⟩
  · rw [toNat_generation_use h.stamped, h.generation, Nat.mod_add_mod, List.countP_append,
      List.countP_singleton]
  · intro s
    cases u with
    | renew =>
        refine iff_of_false ?_ not_visitedSince_renew
        rw [Frontier.use, h.stamped.visited_renew]
        exact Bool.false_ne_true
    | add states state =>
        obtain ⟨hsize, hstate, hforks⟩ := hu
        rw [visitedSince_add, ← h.visited]
        exact visited_add_iff (h.size.trans hsize.symm) (hsize ▸ hstate) hforks

theorem usedFrom_useAll {count : Nat} (huses : ∀ u ∈ uses, u.Inside count) :
    ((start count).useAll uses).UsedFrom count uses := by
  induction uses using List.reverseRecOn with
  | nil => exact usedFrom_start count
  | append_singleton uses u ih =>
      obtain ⟨hbefore, hu⟩ := List.forall_mem_append.mp huses
      exact (ih hbefore).use (hu u (List.mem_singleton_self u))

/-- However often a frontier is renewed, and whatever is added in between, the current generation
is not the stamp of unvisited states, no stamp is current after another renewal, and a stamp is
current exactly when an addition has visited the state since the last one. The generations start
again from zero when they are used up. -/
theorem stamps_tell_visits (count : Nat) (uses : List Use) (huses : ∀ u ∈ uses, u.Inside count) :
    let f := (start count).useAll uses
    f.generation ≠ unvisited ∧
      f.generation.toNat = uses.countP Use.isRenewal % 4294967295 ∧
      (∀ x ∈ f.renew.stamps, x ≠ f.renew.generation) ∧
      ∀ s, f.stamps[s]? = some f.generation ↔ (start count).VisitedSince uses s := by
  intro f
  have h := usedFrom_useAll huses
  refine ⟨h.stamped.generation, h.generation, ?_, fun s => ?_⟩
  · intro x hx hcurrent
    obtain ⟨s, hs⟩ := Array.mem_iff_getElem?.mp hx
    have hvisited : f.renew.visited s = true := decide_eq_true (hcurrent ▸ hs)
    exact Bool.false_ne_true ((h.stamped.visited_renew s).symm.trans hvisited)
  · rw [← h.visited, visited, decide_eq_true_iff]

/-- More renewals than there are numbers of 32 bits. The generations have started again, and a split
that leads to itself is visited in the second one. -/
theorem stamps_tell_visits_started_again :
    let states : Array State := #[.split 1 0, .accept 0 0]
    let uses := List.replicate 4294967296 Use.renew ++ [.add states 0]
    (∀ u ∈ uses, u.Inside 2) ∧
      ((start 2).useAll uses).generation ≠ unvisited ∧
      ((start 2).useAll uses).generation.toNat = 1 ∧
      (∀ x ∈ ((start 2).useAll uses).renew.stamps,
        x ≠ ((start 2).useAll uses).renew.generation) ∧
      (∀ s, ((start 2).useAll uses).stamps[s]? = some ((start 2).useAll uses).generation ↔
        (start 2).VisitedSince uses s) ∧
      ((start 2).useAll uses).stamps[0]? = some ((start 2).useAll uses).generation := by
  generalize hcount : 4294967296 = count
  intro states uses
  have hforks : ForksInside states := by decide
  have huses : ∀ u ∈ uses, u.Inside 2 := by
    intro u hu
    rcases List.mem_append.mp hu with hu | hu
    · rw [List.eq_of_mem_replicate hu]
      trivial
    · rw [List.mem_singleton.mp hu]
      exact ⟨rfl, by decide, hforks⟩
  have hrenewals : uses.countP Use.isRenewal = count := by
    rw [List.countP_append, List.countP_replicate, List.countP_singleton]
    rfl
  obtain ⟨hsentinel, hgeneration, hrenewed, hvisited⟩ := stamps_tell_visits 2 uses huses
  refine ⟨huses, hsentinel, ?_, hrenewed, hvisited, ?_⟩
  · rw [hgeneration, hrenewals, ← hcount]
  · exact (hvisited 0).mpr ⟨_, states, 0, [], rfl, List.not_mem_nil, _, .refl, rfl⟩

end SpanRules.Frontier
