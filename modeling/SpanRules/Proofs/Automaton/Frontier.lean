import Mathlib.Data.List.Nodup
import SpanRules.Proofs.Automaton.Path

/-! # Exploration of splits

Exploring visits exactly what splits lead to along states that have not been visited, and lists
what rests there, each once.
-/

namespace SpanRules

/-- The state takes a token or accepts. -/
def Rests (states : Array State) (state : Nat) : Prop :=
  ∃ s, states[state]? = some s ∧ ∀ first second, s ≠ .split first second

theorem Rests.ne_of_split {states : Array State} {state other first second : Nat}
    (h : Rests states state) (hsplit : states[other]? = some (.split first second)) :
    state ≠ other := by
  rintro rfl
  obtain ⟨s, hs, hne⟩ := h
  exact hne first second (Option.some.inj (hs.symm.trans hsplit))

theorem rests_of_accept {states : Array State} {state rule pattern : Nat}
    (h : states[state]? = some (.accept rule pattern)) : Rests states state :=
  ⟨_, h, by simp⟩

theorem rests_of_consume {states : Array State} {state condition next : Nat} {negated : Bool}
    (h : states[state]? = some (.consume condition negated next)) : Rests states state :=
  ⟨_, h, by simp⟩

namespace Frontier

/-- The state lies in the arena and has not been visited. -/
def Open (f : Frontier) (state : Nat) : Prop :=
  state < f.stamps.size ∧ f.visited state = false

/-- Splits lead from one state to the other along states that have not been visited. -/
def Reaches (f : Frontier) (states : Array State) (state goal : Nat) : Prop :=
  f.Open state ∧ Relation.ReflTransGen (fun s t => Forks states s t ∧ f.Open t) state goal

/-- What exploring the pending states makes of a frontier. -/
structure Explored (states : Array State) (f : Frontier) (pending : List Nat)
    (g : Frontier) : Prop where
  size : g.stamps.size = f.stamps.size
  generation : g.generation = f.generation
  stamps {x : UInt32} : x ∈ g.stamps → x ∈ f.stamps ∨ x = f.generation
  keeps {s : Nat} : f.visited s = true → g.visited s = true
  covers {p : Nat} : p ∈ pending → p < f.stamps.size → g.visited p = true
  closed {s t : Nat} : g.visited s = true → f.visited s = false → Forks states s t →
    t < f.stamps.size → g.visited t = true
  sound {s : Nat} : g.visited s = true → f.visited s = false →
    ∃ p ∈ pending, f.Reaches states p s
  members : ∃ found, g.members = f.members ++ found ∧ found.Nodup ∧
    ∀ s, s ∈ found ↔ f.visited s = false ∧ g.visited s = true ∧ Rests states s

variable {f g : Frontier} {states : Array State} {state : Nat} {pending : List Nat}

theorem visited_visit {other : Nat} (hs : state < f.stamps.size) :
    (f.visit state).visited other = true ↔ other = state ∨ f.visited other = true := by
  by_cases h : other = state
  · subst h
    simp [visited, visit, hs]
  · simp [visited, visit, h, Ne.symm h]

/-- Visiting a state leaves the exploration of its successors and of the other pending states.
What the visit lists is the state itself if it rests. -/
theorem Explored.of_visit (visit : Frontier) (next : List Nat) (hopen : f.Open state)
    (hstamps : visit.stamps = (f.visit state).stamps)
    (hgeneration : visit.generation = f.generation)
    (hmembers : ∃ own, visit.members = f.members ++ own ∧ own.Nodup ∧
      ∀ s, s ∈ own ↔ s = state ∧ Rests states s)
    (hnext : ∀ t, Forks states state t ↔ t ∈ next)
    (h : Explored states visit (next ++ pending) g) :
    Explored states f (state :: pending) g := by
  have hvisited (s : Nat) : visit.visited s = true ↔ s = state ∨ f.visited s = true := by
    rw [← visited_visit hopen.1, visited, hstamps, hgeneration]
    rfl
  have hsize : visit.stamps.size = f.stamps.size := by simp [hstamps, Frontier.visit]
  have hunvisited {s : Nat} (hs : f.visited s = false) (hne : s ≠ state) :
      visit.visited s = false := by
    simp [← Bool.not_eq_true, hvisited, hne, hs]
  have hreaches {p s : Nat} (hp : visit.Reaches states p s) : f.Reaches states p s := by
    have hstep {t : Nat} (ht : visit.Open t) : f.Open t := by
      refine ⟨hsize ▸ ht.1, Bool.eq_false_iff.mpr fun hf => ?_⟩
      exact Bool.eq_false_iff.mp ht.2 ((hvisited t).mpr (Or.inr hf))
    refine ⟨hstep hp.1, Relation.ReflTransGen.mono (fun _ _ hst => ?_) _ _ hp.2⟩
    exact ⟨hst.1, hstep hst.2⟩
  have hstate : g.visited state = true := h.keeps ((hvisited state).mpr (Or.inl rfl))
  refine ⟨h.size.trans hsize, h.generation.trans hgeneration, ?_, ?_, ?_, ?_, ?_, ?_⟩
  · intro x hx
    rcases h.stamps hx with hx | rfl
    · rw [hstamps, Frontier.visit] at hx
      exact Array.mem_or_eq_of_mem_setIfInBounds hx
    · exact Or.inr hgeneration
  · intro s hs
    exact h.keeps ((hvisited s).mpr (Or.inr hs))
  · intro p hp hlt
    rcases List.mem_cons.mp hp with rfl | hp
    · exact hstate
    · exact h.covers (List.mem_append_right _ hp) (hsize ▸ hlt)
  · intro s t hs hf hst ht
    by_cases hne : s = state
    · subst hne
      exact h.covers (List.mem_append_left _ ((hnext t).mp hst)) (hsize ▸ ht)
    · exact h.closed hs (hunvisited hf hne) hst (hsize ▸ ht)
  · intro s hs hf
    by_cases hne : s = state
    · subst hne
      exact ⟨s, by simp, hopen, .refl⟩
    · obtain ⟨p, hp, hps⟩ := h.sound hs (hunvisited hf hne)
      rcases List.mem_append.mp hp with hp | hp
      · have hps := hreaches hps
        exact ⟨state, by simp, hopen, .head ⟨(hnext p).mpr hp, hps.1⟩ hps.2⟩
      · exact ⟨p, by simp [hp], hreaches hps⟩
  · obtain ⟨own, hown, hownNodup, hmemOwn⟩ := hmembers
    obtain ⟨found, hfound, hfoundNodup, hmemFound⟩ := h.members
    refine ⟨own ++ found, by rw [hfound, hown, List.append_assoc], ?_, ?_⟩
    · refine List.Nodup.append hownNodup hfoundNodup fun s hs hs' => ?_
      have hvisit := ((hmemFound s).mp hs').1
      rw [((hmemOwn s).mp hs).1, (hvisited state).mpr (Or.inl rfl)] at hvisit
      simp at hvisit
    · intro s
      rw [List.mem_append, hmemOwn, hmemFound]
      by_cases hne : s = state
      · subst hne
        simp [hstate, hopen.2, (hvisited s).mpr (Or.inl rfl)]
      · simp only [hne, false_and, false_or]
        rw [← Bool.not_eq_true, ← Bool.not_eq_true (f.visited s), hvisited]
        simp [hne]

/-- A state that is not open adds nothing to what is explored. -/
theorem Explored.of_not_open (hopen : ¬ (state < f.stamps.size ∧ f.visited state = false))
    (h : Explored states f pending g) : Explored states f (state :: pending) g := by
  have hcovers : state < f.stamps.size → f.visited state = true := by
    simpa using hopen
  refine ⟨h.size, h.generation, h.stamps, h.keeps, ?_, h.closed, ?_, h.members⟩
  · intro p hp hlt
    rcases List.mem_cons.mp hp with rfl | hp
    · exact h.keeps (hcovers hlt)
    · exact h.covers hp hlt
  · intro s hs hf
    obtain ⟨p, hp, hps⟩ := h.sound hs hf
    exact ⟨p, by simp [hp], hps⟩

theorem explored_explore (states : Array State) (f : Frontier) (pending : List Nat) :
    Explored states f pending (explore states f pending) := by
  fun_induction explore states f pending with
  | case1 f =>
      refine ⟨rfl, rfl, Or.inl, id, by simp, ?_, ?_, [], by simp, .nil, ?_⟩
      · intro s t hs hf
        simp [hs] at hf
      · intro s hs hf
        simp [hs] at hf
      · intro s
        simp +contextual
  | case2 f state pending hopen first second hs ih =>
      refine .of_visit (f.visit state) [first, second] hopen rfl rfl
        ⟨[], (List.append_nil _).symm, .nil, ?_⟩ ?_ ih
      · simp +contextual [Rests, hs]
      · simp [Forks, hs]
  | case3 f state pending hopen s hsplit hs ih =>
      refine .of_visit ((f.visit state).insert state) [] hopen rfl rfl
        ⟨[state], rfl, List.nodup_singleton _, ?_⟩ ?_ ih
      · intro t
        simp only [List.mem_singleton, iff_self_and]
        rintro rfl
        exact ⟨s, hs, hsplit⟩
      · rintro t
        simp only [List.not_mem_nil, iff_false]
        rintro ⟨first, second, hfork, -⟩
        exact hsplit first second (Option.some.inj (hs.symm.trans hfork))
  | case4 f state pending hopen hs ih =>
      refine .of_visit (f.visit state) [] hopen rfl rfl
        ⟨[], (List.append_nil _).symm, .nil, ?_⟩ ?_ ih
      · simp [Rests, hs]
      · simp [Forks, hs]
  | case5 f state pending hopen ih => exact .of_not_open hopen ih

/-- Exploring visits exactly what splits lead to from the pending states along open states. -/
theorem Explored.visited_iff (h : Explored states f pending g) :
    g.visited state = true ↔
      f.visited state = true ∨ ∃ p ∈ pending, f.Reaches states p state := by
  constructor
  · intro hg
    cases hf : f.visited state with
    | true => exact Or.inl rfl
    | false => exact Or.inr (h.sound hg hf)
  · rintro (hf | ⟨p, hp, hopen, hpath⟩)
    · exact h.keeps hf
    · suffices g.visited state = true ∧ f.Open state from this.1
      induction hpath with
      | refl => exact ⟨h.covers hp hopen.1, hopen⟩
      | tail _ hst ih => exact ⟨h.closed ih.1 ih.2.2 hst.1 hst.2.1, hst.2⟩

/-! ## Generations -/

/-- The current generation is not the stamp of unvisited states, and no other stamp is later
than it. -/
structure WellStamped (f : Frontier) : Prop where
  generation : f.generation ≠ unvisited
  stamps {x : UInt32} : x ∈ f.stamps → x = unvisited ∨ x ≤ f.generation

theorem lt_add_one_of_ne_unvisited {x : UInt32} (h : x ≠ unvisited) : x < x + 1 := by
  have hlt := x.toNat_lt
  have hne : x.toNat ≠ 4294967295 := fun hx => h (UInt32.toNat_inj.mp hx)
  rw [UInt32.lt_iff_toNat_lt, UInt32.toNat_add, UInt32.toNat_one, Nat.mod_eq_of_lt] <;> omega

theorem wellStamped_start (count : Nat) : (start count).WellStamped :=
  ⟨(by decide : (0 : UInt32) ≠ unvisited), fun hx => Or.inl (Array.eq_of_mem_replicate hx)⟩

theorem Explored.wellStamped (h : Explored states f pending g) (hf : f.WellStamped) :
    g.WellStamped := by
  refine ⟨h.generation ▸ hf.generation, fun {x} hx => ?_⟩
  rw [h.generation]
  rcases h.stamps hx with hx | rfl
  · exact hf.stamps hx
  · exact Or.inr (UInt32.le_refl _)

theorem WellStamped.renew (h : f.WellStamped) : f.renew.WellStamped := by
  have hlt := lt_add_one_of_ne_unvisited h.generation
  unfold Frontier.renew
  dsimp only
  split
  · exact ⟨(by decide : (0 : UInt32) ≠ unvisited),
      fun hx => Or.inl (Array.eq_of_mem_replicate hx)⟩
  · rename_i hne
    refine ⟨hne, fun hx => ?_⟩
    rcases h.stamps hx with hx | hx
    · exact Or.inl hx
    · exact Or.inr (UInt32.le_of_lt (UInt32.lt_of_le_of_lt hx hlt))

/-- A new generation forgets every visit. -/
theorem WellStamped.visited_renew (h : f.WellStamped) (s : Nat) :
    f.renew.visited s = false := by
  have hlt := lt_add_one_of_ne_unvisited h.generation
  rw [← Bool.not_eq_true, visited, decide_eq_true_eq]
  intro hs
  have hmem := Array.mem_of_getElem? hs
  revert hmem
  unfold Frontier.renew
  dsimp only
  split
  · intro hmem
    exact absurd (Array.eq_of_mem_replicate hmem) (by decide : (0 : UInt32) ≠ unvisited)
  · rename_i hne
    intro hmem
    rcases h.stamps hmem with hx | hx
    · exact hne hx
    · exact UInt32.lt_irrefl _ (UInt32.lt_of_le_of_lt hx hlt)

@[simp] theorem size_stamps_renew : f.renew.stamps.size = f.stamps.size := by
  unfold renew
  dsimp only
  split <;> simp

@[simp] theorem members_renew : f.renew.members = [] := by
  unfold renew
  dsimp only
  split <;> rfl

/-! ## Closures of several states -/

/-- The frontier shows the closure of some seeds. -/
structure Shows (f : Frontier) (states : Array State) (seeds : List Nat) : Prop where
  size : f.stamps.size = states.size
  stamped : f.WellStamped
  visited {s : Nat} :
    f.visited s = true ↔ s < states.size ∧ ∃ p ∈ seeds, Closure states p s
  nodup : f.members.Nodup
  members {s : Nat} : s ∈ f.members ↔ Rests states s ∧ f.visited s = true

theorem Shows.mem_members {seeds : List Nat} (h : f.Shows states seeds) {s : Nat} :
    s ∈ f.members ↔ Rests states s ∧ ∃ p ∈ seeds, Closure states p s := by
  rw [h.members, h.visited]
  refine and_congr_right fun hrests => and_iff_right ?_
  obtain ⟨x, hx, -⟩ := hrests
  exact (Array.getElem?_eq_some_iff.mp hx).1

theorem shows_renew (hstamped : f.WellStamped) (hsize : f.stamps.size = states.size) :
    f.renew.Shows states [] where
  size := by simpa using hsize
  stamped := hstamped.renew
  visited := by simp [hstamped.visited_renew]
  nodup := by simp
  members := by simp [hstamped.visited_renew]

theorem Reaches.closure {goal : Nat} (h : f.Reaches states state goal) :
    Closure states state goal :=
  Relation.ReflTransGen.mono (fun _ _ hst => hst.1) _ _ h.2

theorem Reaches.open_goal {goal : Nat} (h : f.Reaches states state goal) : f.Open goal := by
  obtain ⟨hopen, hpath⟩ := h
  cases hpath with
  | refl => exact hopen
  | tail _ hst => exact hst.2

/-- The visited states are closed under splits. So what splits lead to has either been visited, or
the way there is open all along. -/
theorem Shows.visited_or_reaches {seeds : List Nat} (h : f.Shows states seeds) {seed s : Nat}
    (hclosure : Closure states seed s) (hs : s < states.size) :
    f.visited s = true ∨ f.Reaches states seed s := by
  induction hclosure with
  | refl =>
      cases hv : f.visited seed with
      | true => exact Or.inl rfl
      | false => exact Or.inr ⟨⟨h.size ▸ hs, hv⟩, .refl⟩
  | @tail b c _ hfork ih =>
      have hb : b < states.size := by
        obtain ⟨_, _, hsplit, -⟩ := hfork
        exact (Array.getElem?_eq_some_iff.mp hsplit).1
      rcases ih hb with hvisited | hreaches
      · obtain ⟨-, p, hp, hpb⟩ := h.visited.mp hvisited
        exact Or.inl (h.visited.mpr ⟨hs, p, hp, hpb.tail hfork⟩)
      · cases hv : f.visited c with
        | true => exact Or.inl rfl
        | false => exact Or.inr ⟨hreaches.1, hreaches.2.tail ⟨hfork, h.size ▸ hs, hv⟩⟩

/-- Adding a state adds its closure. -/
theorem Shows.add {seeds : List Nat} (h : f.Shows states seeds) (seed : Nat) :
    (f.add states seed).Shows states (seeds ++ [seed]) := by
  have hexplored := explored_explore states f [seed]
  obtain ⟨found, hfound, hnodup, hmem⟩ := hexplored.members
  refine ⟨hexplored.size.trans h.size, hexplored.wellStamped h.stamped, ?_, ?_, ?_⟩
  · intro s
    rw [Frontier.add, hexplored.visited_iff, h.visited]
    simp only [List.mem_append, List.mem_singleton, or_and_right, exists_or, exists_eq_left,
      and_or_left]
    constructor
    · rintro (hold | hreaches)
      · exact Or.inl hold
      · exact Or.inr ⟨h.size ▸ hreaches.open_goal.1, hreaches.closure⟩
    · rintro (hold | ⟨hs, hclosure⟩)
      · exact Or.inl hold
      · exact (h.visited_or_reaches hclosure hs).imp_left h.visited.mp
  · rw [Frontier.add, hfound]
    refine h.nodup.append hnodup fun s hs hs' => ?_
    have hvisited := (h.members.mp hs).2
    rw [((hmem s).mp hs').1] at hvisited
    exact Bool.false_ne_true hvisited
  · intro s
    rw [Frontier.add, hfound, List.mem_append, h.members, hmem]
    cases hv : f.visited s with
    | true => simp [hexplored.keeps hv]
    | false => simp [and_comm]

theorem Shows.addAll {seeds : List Nat} (h : f.Shows states seeds) (entries : List Nat) :
    (f.addAll states entries).Shows states (seeds ++ entries) := by
  induction entries generalizing f seeds with
  | nil => simpa [addAll] using h
  | cons entry entries ih => simpa [addAll] using ih (h.add entry)

end Frontier

end SpanRules
