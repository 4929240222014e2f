import Mathlib.Data.List.Induction
import Mathlib.Order.Nat
import SpanRules.PhraseBook.Trie

/-! # The paths of a trie

A path leads from a node along texts. Links only lead to newer nodes and no node has two, so two
paths from the root never meet, and letting a key end at one path leaves all others alone.
-/

namespace SpanRules.Trie

/-- The node to which a path leads from a node. -/
def descend (t : Trie) (node : Nat) : List TextId → Option Nat
  | [] => some node
  | id :: rest => (t.child? node id).bind fun child => t.descend child rest

/-- The keys that end where a path leads from a node. -/
def endsBelow (t : Trie) (node : Nat) (path : List TextId) : List TextId :=
  ((t.descend node path).map t.terminalsAt).getD []

/-- A key among others, behind them when it is new. -/
def withKey (key : TextId) (keys : List TextId) : List TextId :=
  if key ∈ keys then keys else keys ++ [key]

/-- Links lead to newer nodes, and no node has two. -/
structure WellLinked (t : Trie) : Prop where
  root : 0 < t.size
  newer {node : Nat} {id : TextId} {child : Nat} :
    t.child? node id = some child → node < child ∧ child < t.size
  once {node other : Nat} {id id' : TextId} {child : Nat} :
    t.child? node id = some child → t.child? other id' = some child → node = other ∧ id = id'

variable {t u v : Trie} {node m : Nat} {id x key : TextId} {path rest : List TextId}

/-! ## The operations, seen through links and keys -/

theorem terminalsAt_of_le (h : t.size ≤ m) : t.terminalsAt m = [] := by
  rw [terminalsAt, Array.getElem?_eq_none h]
  rfl

@[simp] theorem size_grow : (t.grow node id).size = t.size + 1 := by
  simp [grow, size]

theorem child?_grow (hnode : node < t.size) :
    (t.grow node id).child? m x = if m = node ∧ x = id then some t.size else t.child? m x := by
  have hne : node ≠ t.nodes.size := hnode.ne
  obtain ⟨n, hn⟩ : ∃ n, t.nodes[node]? = some n := ⟨_, Array.getElem?_eq_getElem hnode⟩
  unfold child? grow
  rw [Array.getElem?_modify, Array.getElem?_push]
  by_cases hm : m = node
  · subst hm
    simp [hne, hn, size]
  · have hother : ¬ (m = node ∧ x = id) := fun h => hm h.1
    rw [if_neg (Ne.symm hm), if_neg hother]
    split
    · rename_i hlast
      simp [hlast]
    · rfl

theorem terminalsAt_grow : (t.grow node id).terminalsAt m = t.terminalsAt m := by
  unfold terminalsAt grow
  rw [Array.getElem?_modify, Array.getElem?_push]
  by_cases hlast : m = t.nodes.size
  · have hold : t.nodes[m]? = none := Array.getElem?_eq_none (Nat.le_of_eq hlast.symm)
    rw [if_pos hlast, hold]
    split
    · rfl
    · rfl
  · by_cases hm : node = m
    · simp [hlast, hm, Function.comp_def]
    · simp [hlast, hm]

@[simp] theorem size_terminate : (t.terminate node key).size = t.size := by
  simp [terminate, size]

@[simp] theorem child?_terminate : (t.terminate node key).child? m x = t.child? m x := by
  unfold child? terminate
  rw [Array.getElem?_modify]
  split
  · rw [Option.bind_map]
    congr 1
    funext n
    simp only [Function.comp_apply]
    split <;> rfl
  · rfl

theorem terminalsAt_terminate (hnode : node < t.size) :
    (t.terminate node key).terminalsAt m =
      if m = node then withKey key (t.terminalsAt m) else t.terminalsAt m := by
  obtain ⟨n, hn⟩ : ∃ n, t.nodes[node]? = some n := ⟨_, Array.getElem?_eq_getElem hnode⟩
  unfold terminalsAt terminate
  rw [Array.getElem?_modify]
  by_cases hm : m = node
  · subst hm
    simp only [if_pos, hn, Option.map_some, Option.getD_some, withKey]
    split <;> rfl
  · rw [if_neg (Ne.symm hm), if_neg hm]

@[simp] theorem size_forget : (t.forget key).size = t.size := by
  simp [forget, size]

@[simp] theorem child?_forget : (t.forget key).child? m x = t.child? m x := by
  unfold child? forget
  rw [Array.getElem?_map]
  cases t.nodes[m]? with
  | none => rfl
  | some n => rfl

theorem terminalsAt_forget :
    (t.forget key).terminalsAt m = (t.terminalsAt m).filter (· ≠ key) := by
  unfold terminalsAt forget
  rw [Array.getElem?_map]
  cases t.nodes[m]? with
  | none => rfl
  | some n => rfl

/-! ## Paths -/

theorem descend_append : t.descend node (path ++ rest) =
    (t.descend node path).bind fun child => t.descend child rest := by
  induction path generalizing node with
  | nil => rfl
  | cons id path ih =>
      rw [List.cons_append, descend, descend, Option.bind_assoc]
      congr 1
      funext child
      exact ih

theorem descend_concat : t.descend node (path ++ [id]) =
    (t.descend node path).bind fun child => t.child? child id := by
  rw [descend_append]
  congr 1
  funext child
  simp [descend]

theorem WellLinked.le_of_descend (h : t.WellLinked) (hm : t.descend node path = some m) :
    node ≤ m := by
  induction path generalizing node with
  | nil => exact Nat.le_of_eq (Option.some.inj hm)
  | cons id path ih =>
      obtain ⟨child, hchild, hrest⟩ := Option.bind_eq_some_iff.mp hm
      exact (h.newer hchild).1.le.trans (ih hrest)

/-- Two paths from the root never lead to one node. The last link of a path is the only one to its
end, so it is also the last link of the other path. -/
theorem WellLinked.path_unique (h : t.WellLinked) (hpath : t.descend 0 path = some m)
    (hrest : t.descend 0 rest = some m) : path = rest := by
  induction path using List.reverseRecOn generalizing rest m with
  | nil =>
      obtain rfl := Option.some.inj hpath
      cases rest with
      | nil => rfl
      | cons id rest =>
          obtain ⟨child, hchild, hdescend⟩ := Option.bind_eq_some_iff.mp hrest
          have := (h.newer hchild).1
          have := h.le_of_descend hdescend
          omega
  | append_singleton path id ih =>
      rw [descend_concat] at hpath
      obtain ⟨last, hlast, hm⟩ := Option.bind_eq_some_iff.mp hpath
      rcases rest.eq_nil_or_concat with rfl | ⟨rest, id', rfl⟩
      · have := (h.newer hm).1
        have := Option.some.inj hrest
        omega
      · rw [List.concat_eq_append, descend_concat] at hrest
        obtain ⟨last', hlast', hm'⟩ := Option.bind_eq_some_iff.mp hrest
        obtain ⟨rfl, rfl⟩ := h.once hm hm'
        rw [ih hlast hlast', List.concat_eq_append]

/-! ## Growth -/

/-- `u` has the links of `t`, and its others lead to nodes that `t` does not have. -/
structure Extends (u t : Trie) : Prop where
  size : t.size ≤ u.size
  keeps {node : Nat} {id : TextId} {child : Nat} :
    t.child? node id = some child → u.child? node id = some child
  fresh {node : Nat} {id : TextId} {child : Nat} :
    u.child? node id = some child → t.child? node id = some child ∨ t.size ≤ child

theorem Extends.trans (hv : v.Extends u) (hu : u.Extends t) : v.Extends t where
  size := hu.size.trans hv.size
  keeps := hv.keeps ∘ hu.keeps
  fresh := by
    intro node id child hchild
    rcases hv.fresh hchild with hchild | hnew
    · exact hu.fresh hchild
    · exact Or.inr (hu.size.trans hnew)

theorem Extends.descend (hu : u.Extends t) (hm : t.descend node path = some m) :
    u.descend node path = some m := by
  induction path generalizing node with
  | nil => exact hm
  | cons id path ih =>
      obtain ⟨child, hchild, hrest⟩ := Option.bind_eq_some_iff.mp hm
      exact Option.bind_eq_some_iff.mpr ⟨child, hu.keeps hchild, ih hrest⟩

theorem Extends.descend_or_le (hu : u.Extends t) (h : u.WellLinked)
    (hm : u.descend node path = some m) : t.descend node path = some m ∨ t.size ≤ m := by
  induction path generalizing node with
  | nil => exact Or.inl hm
  | cons id path ih =>
      obtain ⟨child, hchild, hrest⟩ := Option.bind_eq_some_iff.mp hm
      rcases hu.fresh hchild with hold | hnew
      · rcases ih hrest with hdescend | hlast
        · exact Or.inl (Option.bind_eq_some_iff.mpr ⟨child, hold, hdescend⟩)
        · exact Or.inr hlast
      · exact Or.inr (hnew.trans (h.le_of_descend hrest))

/-- At a node that the path reaches only after the growth no key ended before. -/
theorem Extends.endsBelow_eq (hu : u.Extends t) (h : u.WellLinked)
    (hm : u.descend node path = some m) : t.endsBelow node path = t.terminalsAt m := by
  rcases hu.descend_or_le h hm with hold | hnew
  · rw [endsBelow, hold]
    rfl
  · rw [terminalsAt_of_le hnew, endsBelow]
    cases hdescend : t.descend node path with
    | none => rfl
    | some last =>
        obtain rfl : last = m := Option.some.inj ((hu.descend hdescend).symm.trans hm)
        exact terminalsAt_of_le hnew

theorem extends_grow (hnode : node < t.size) (hnew : t.child? node id = none) :
    (t.grow node id).Extends t where
  size := by simp
  keeps := by
    intro m x child hchild
    rw [child?_grow hnode, if_neg]
    · exact hchild
    · rintro ⟨rfl, rfl⟩
      rw [hnew] at hchild
      cases hchild
  fresh := by
    intro m x child hchild
    rw [child?_grow hnode] at hchild
    split at hchild
    · exact Or.inr (Nat.le_of_eq (Option.some.inj hchild))
    · exact Or.inl hchild

theorem WellLinked.grow (h : t.WellLinked) (hnode : node < t.size) :
    (t.grow node id).WellLinked where
  root := by simp
  newer := by
    intro m x child hchild
    rw [child?_grow hnode] at hchild
    rw [size_grow]
    split at hchild
    · rename_i hlast
      obtain rfl := Option.some.inj hchild
      exact ⟨hlast.1 ▸ hnode, Nat.lt_succ_self _⟩
    · have := h.newer hchild
      omega
  once := by
    intro m other x x' child hchild hother
    rw [child?_grow hnode] at hchild hother
    split at hchild
    · rename_i hlast
      obtain rfl := Option.some.inj hchild
      split at hother
      · rename_i hlast'
        exact ⟨hlast.1.trans hlast'.1.symm, hlast.2.trans hlast'.2.symm⟩
      · exact absurd (h.newer hother).2 (Nat.lt_irrefl _)
    · split at hother
      · obtain rfl := Option.some.inj hother
        exact absurd (h.newer hchild).2 (Nat.lt_irrefl _)
      · exact h.once hchild hother

/-- With the same number of nodes and the same links a trie is as well linked. -/
theorem WellLinked.of_child?_eq (h : t.WellLinked) (hsize : u.size = t.size)
    (hchild : ∀ m x, u.child? m x = t.child? m x) : u.WellLinked where
  root := hsize ▸ h.root
  newer := by
    intro m x child hm
    rw [hchild] at hm
    rw [hsize]
    exact h.newer hm
  once := by
    intro m other x x' child hm hother
    rw [hchild] at hm hother
    exact h.once hm hother

/-! ## Entering a phrase -/

/-- `u` is `t` with the key at the end of the path, and nothing else has changed. -/
structure Enters (u t : Trie) (key : TextId) (node : Nat) (path : List TextId) : Prop
    extends u.Extends t where
  wellLinked : u.WellLinked
  ends : ∃ last, u.descend node path = some last ∧ ∀ m,
    u.terminalsAt m = if m = last then withKey key (t.terminalsAt m) else t.terminalsAt m

theorem enters_terminate (h : t.WellLinked) (hnode : node < t.size) :
    (t.terminate node key).Enters t key node [] where
  size := by simp
  keeps := by simp
  fresh := by
    intro m x child hchild
    rw [child?_terminate] at hchild
    exact Or.inl hchild
  wellLinked := h.of_child?_eq size_terminate fun _ _ => child?_terminate
  ends := ⟨node, rfl, fun _ => terminalsAt_terminate hnode⟩

theorem enters_insertAt (h : t.WellLinked) (hnode : node < t.size) :
    (t.insertAt key node path).Enters t key node path := by
  induction path generalizing t node with
  | nil => exact enters_terminate h hnode
  | cons id rest ih =>
      rw [insertAt]
      split
      · rename_i child hchild
        have hrest := ih h (h.newer hchild).2
        obtain ⟨last, hlast, hends⟩ := hrest.ends
        refine ⟨hrest.toExtends, hrest.wellLinked, last, ?_, hends⟩
        rw [descend, hrest.keeps hchild, Option.bind_some, hlast]
      · rename_i hnew
        have hgrow := extends_grow hnode hnew
        have hlinked : (t.grow node id).WellLinked := h.grow hnode
        have hrest := ih hlinked (by simp : t.size < (t.grow node id).size)
        obtain ⟨last, hlast, hends⟩ := hrest.ends
        have hchild : (t.grow node id).child? node id = some t.size := by
          rw [child?_grow hnode, if_pos ⟨rfl, rfl⟩]
        refine ⟨hrest.toExtends.trans hgrow, hrest.wellLinked, last, ?_, ?_⟩
        · rw [descend, hrest.keeps hchild, Option.bind_some, hlast]
        · intro m
          rw [hends, terminalsAt_grow]

/-- A phrase that is entered adds its key at its own path only. -/
theorem endsBelow_insert (h : t.WellLinked) {phrase : List TextId} :
    (t.insert key phrase).endsBelow 0 path =
      if path = phrase then withKey key (t.endsBelow 0 path) else t.endsBelow 0 path := by
  have hinsert : (t.insert key phrase).Enters t key 0 phrase := enters_insertAt h h.root
  obtain ⟨last, hlast, hends⟩ := hinsert.ends
  by_cases hpath : path = phrase
  · rw [if_pos hpath, hpath, hinsert.endsBelow_eq hinsert.wellLinked hlast, endsBelow, hlast]
    simp [hends]
  · rw [if_neg hpath]
    cases hdescend : (t.insert key phrase).descend 0 path with
    | none =>
        have hold : t.descend 0 path = none := by
          cases hold : t.descend 0 path with
          | none => rfl
          | some m =>
              rw [hinsert.descend hold] at hdescend
              cases hdescend
        rw [endsBelow, endsBelow, hdescend, hold]
        rfl
    | some m =>
        have hne : m ≠ last := by
          rintro rfl
          exact hpath (hinsert.wellLinked.path_unique hdescend hlast)
        rw [hinsert.endsBelow_eq hinsert.wellLinked hdescend, endsBelow, hdescend]
        simp [hends, hne]

theorem WellLinked.insert (h : t.WellLinked) {phrase : List TextId} :
    (t.insert key phrase).WellLinked :=
  (enters_insertAt h h.root).wellLinked

/-! ## The empty trie and forgetting -/

theorem child?_empty : (({} : Trie)).child? m x = none := by
  cases m with
  | zero => rfl
  | succ m => rfl

theorem wellLinked_empty : WellLinked {} where
  root := by decide
  newer := by simp [child?_empty]
  once := by simp [child?_empty]

theorem endsBelow_empty : ({} : Trie).endsBelow 0 path = [] := by
  cases path with
  | nil => rfl
  | cons id rest => simp [endsBelow, descend, child?_empty]

theorem WellLinked.forget (h : t.WellLinked) : (t.forget key).WellLinked :=
  h.of_child?_eq size_forget fun _ _ => child?_forget

theorem descend_forget : (t.forget key).descend node path = t.descend node path := by
  induction path generalizing node with
  | nil => rfl
  | cons id rest ih => simp only [descend, child?_forget, ih]

theorem endsBelow_forget :
    (t.forget key).endsBelow node path = (t.endsBelow node path).filter (· ≠ key) := by
  rw [endsBelow, descend_forget, endsBelow]
  cases t.descend node path with
  | none => rfl
  | some m => simp [terminalsAt_forget]

end SpanRules.Trie
