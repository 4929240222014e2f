/-! # Sorting -/

namespace SpanRules

/-- Puts an element in front of the first one that may stand behind it. -/
def insertSorted {α : Type} (le : α → α → Bool) (a : α) : List α → List α
  | [] => [a]
  | b :: rest => if le a b then a :: b :: rest else b :: insertSorted le a rest

/-- Sorts a list. Elements that may stand in either order keep theirs. -/
def sortBy {α : Type} (le : α → α → Bool) (l : List α) : List α :=
  l.foldr (insertSorted le) []

theorem perm_insertSorted {α : Type} (le : α → α → Bool) (a : α) (l : List α) :
    (insertSorted le a l).Perm (a :: l) := by
  induction l with
  | nil => exact .refl _
  | cons b rest ih =>
    rw [insertSorted]
    split
    · exact .refl _
    · exact (ih.cons b).trans (.swap a b rest)

/-- Sorting neither loses nor adds anything. -/
theorem perm_sortBy {α : Type} (le : α → α → Bool) (l : List α) : (sortBy le l).Perm l := by
  induction l with
  | nil => exact .refl _
  | cons a l ih => exact (perm_insertSorted le a _).trans (ih.cons a)

@[simp] theorem mem_sortBy {α : Type} {le : α → α → Bool} {l : List α} {a : α} :
    a ∈ sortBy le l ↔ a ∈ l :=
  (perm_sortBy le l).mem_iff

section Stable

variable {α β : Type}

theorem map_insertSorted {f : α → β} {le : α → α → Bool} {le' : β → β → Bool}
    (h : ∀ a b, le' (f a) (f b) = le a b) (a : α) (l : List α) :
    (insertSorted le a l).map f = insertSorted le' (f a) (l.map f) := by
  induction l with
  | nil => rfl
  | cons b rest ih =>
    rw [insertSorted, List.map_cons, insertSorted, h]
    split
    · rfl
    · rw [List.map_cons, ih]

/-- Sorting commutes with a map that the comparison does not see. -/
theorem map_sortBy {f : α → β} {le : α → α → Bool} {le' : β → β → Bool}
    (h : ∀ a b, le' (f a) (f b) = le a b) (l : List α) :
    (sortBy le l).map f = sortBy le' (l.map f) := by
  induction l with
  | nil => rfl
  | cons a l ih => exact (map_insertSorted h a _).trans (congrArg _ ih)

variable {key : α → Nat} {r : α → α → Prop} {a : α} {l : List α}

theorem pairwise_insertSorted (ha : ∀ b ∈ l, r a b)
    (h : l.Pairwise fun a b => key a < key b ∨ key a = key b ∧ r a b) :
    (insertSorted (fun a b => key a ≤ key b) a l).Pairwise fun a b =>
      key a < key b ∨ key a = key b ∧ r a b := by
  induction l with
  | nil => exact List.pairwise_singleton _ a
  | cons b rest ih =>
    obtain ⟨hb, hrest⟩ := List.pairwise_cons.1 h
    rw [insertSorted]
    split
    · rename_i hle
      have hle : key a ≤ key b := of_decide_eq_true hle
      refine List.pairwise_cons.2 ⟨fun c hc => ?_, h⟩
      have hbc : key b ≤ key c := by
        rcases List.mem_cons.1 hc with rfl | hc
        · exact Nat.le_refl _
        · rcases hb c hc with hlt | heq
          · exact Nat.le_of_lt hlt
          · exact Nat.le_of_eq heq.1
      rcases Nat.lt_or_eq_of_le (Nat.le_trans hle hbc) with hlt | heq
      · exact Or.inl hlt
      · exact Or.inr ⟨heq, ha c hc⟩
    · rename_i hnot
      have hlt : key b < key a := Nat.lt_of_not_le fun hle => hnot (decide_eq_true hle)
      refine List.pairwise_cons.2 ⟨fun c hc => ?_, ih (fun d hd => ha d (.tail _ hd)) hrest⟩
      rcases List.mem_cons.1 ((perm_insertSorted _ a rest).mem_iff.1 hc) with rfl | hc
      · exact Or.inl hlt
      · exact hb c hc

/-- Elements of one key stay in the order that they were in. -/
theorem pairwise_sortBy (h : l.Pairwise r) :
    (sortBy (fun a b => key a ≤ key b) l).Pairwise fun a b =>
      key a < key b ∨ key a = key b ∧ r a b := by
  induction l with
  | nil => exact .nil
  | cons a l ih =>
    obtain ⟨ha, hl⟩ := List.pairwise_cons.1 h
    exact pairwise_insertSorted (fun b hb => ha b (mem_sortBy.1 hb)) (ih hl)

end Stable

end SpanRules
