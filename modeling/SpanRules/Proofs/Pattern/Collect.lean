import Mathlib.Data.List.Forall2
import SpanRules.Pattern.Reader

/-! # The first fault of a list

Collecting reads the items in order. It succeeds when every item can be read, and its fault is
that of the first item that cannot.
-/

namespace SpanRules

variable {α β ε : Type} {f : α → Except ε β} {a : α} {b : β} {items : List α} {fault : ε}

theorem collect_cons_of_error (h : f a = .error fault) : collect f (a :: items) = .error fault := by
  rw [collect, h]

theorem collect_cons_of_ok (h : f a = .ok b) :
    collect f (a :: items) = (collect f items).map (b :: ·) := by
  rw [collect, h]
  cases collect f items with
  | error e => rfl
  | ok bs => rfl

theorem collect_eq_ok_iff {results : List β} :
    collect f items = .ok results ↔ List.Forall₂ (fun a b => f a = .ok b) items results := by
  induction items generalizing results with
  | nil => simp [collect, eq_comm]
  | cons a items ih =>
      rw [List.forall₂_cons_left_iff]
      simp only [← ih]
      cases ha : f a with
      | error e => simp [collect_cons_of_error ha]
      | ok b =>
          rw [collect_cons_of_ok ha]
          cases collect f items with
          | error e => simp [Except.map]
          | ok bs => simp [Except.map, eq_comm]

theorem exists_collect_eq_ok_iff :
    (∃ results, collect f items = .ok results) ↔ ∀ a ∈ items, ∃ b, f a = .ok b := by
  induction items with
  | nil => simp [collect]
  | cons a items ih =>
      rw [List.forall_mem_cons, ← ih]
      cases ha : f a with
      | error e => simp [collect_cons_of_error ha]
      | ok b =>
          rw [collect_cons_of_ok ha]
          cases collect f items with
          | error e => simp [Except.map]
          | ok bs => simp [Except.map]

theorem exists_of_mem_collect {results : List β} (h : collect f items = .ok results)
    (hb : b ∈ results) : ∃ a ∈ items, f a = .ok b := by
  rw [collect_eq_ok_iff] at h
  induction h with
  | nil => cases hb
  | cons hfirst _ ih =>
      rcases List.mem_cons.mp hb with rfl | hb
      · exact ⟨_, List.mem_cons_self, hfirst⟩
      · obtain ⟨a, ha, hread⟩ := ih hb
        exact ⟨a, List.mem_cons_of_mem _ ha, hread⟩

theorem collect_append {others : List α} :
    collect f (items ++ others) =
      collect f items >>= fun results => (collect f others).map (results ++ ·) := by
  induction items with
  | nil =>
      cases h : collect f others <;> simp [collect, h, bind, Except.bind, Except.map]
  | cons a items ih =>
      rw [List.cons_append]
      cases ha : f a with
      | error e => simp [collect_cons_of_error ha, bind, Except.bind]
      | ok b =>
          rw [collect_cons_of_ok ha, collect_cons_of_ok ha, ih]
          cases collect f items with
          | error e => rfl
          | ok bs => cases h : collect f others <;> rfl

/-- Items that are read alike may stand for each other. -/
theorem collect_replace {b : α} (h : f a = f b) (before after : List α) :
    collect f (before ++ a :: after) = collect f (before ++ b :: after) := by
  rw [collect_append, collect_append, collect, collect, h]

/-- A reader that is stricter only about certain marks finds the first mark, if there is one. -/
theorem collect_of_stricter {γ : Type} {g : α → Except ε β} {marks : α → List γ}
    {toFault : γ → ε} {results : List β}
    (hg : ∀ a b, f a = .ok b → g a = (marks a).head?.elim (.ok b) fun m => .error (toFault m))
    (h : collect f items = .ok results) :
    collect g items =
      (items.flatMap marks).head?.elim (.ok results) fun m => .error (toFault m) := by
  rw [collect_eq_ok_iff] at h
  induction h with
  | nil => rfl
  | @cons a b items results ha _ ih =>
      have ha := hg a b ha
      rw [List.flatMap_cons]
      cases hmarks : marks a with
      | nil =>
          rw [hmarks] at ha
          rw [collect_cons_of_ok ha, ih, List.nil_append]
          cases (items.flatMap marks).head? <;> rfl
      | cons m rest =>
          rw [hmarks] at ha
          exact collect_cons_of_error ha

/-- The faulty item is the first one: all items in front of it can be read. -/
theorem collect_eq_error_iff :
    collect f items = .error fault ↔ ∃ before a after, items = before ++ a :: after ∧
      (∀ b ∈ before, ∃ result, f b = .ok result) ∧ f a = .error fault := by
  induction items with
  | nil => simp [collect]
  | cons first items ih =>
      simp only [List.cons_eq_append_iff]
      cases hfirst : f first with
      | error e =>
          rw [collect_cons_of_error hfirst, Except.error.injEq]
          constructor
          · intro h
            exact ⟨[], first, items, Or.inl ⟨rfl, rfl⟩, by simp, h ▸ hfirst⟩
          · rintro ⟨before, a, after, ⟨rfl, hsplit⟩ | ⟨tail, rfl, -⟩, hbefore, ha⟩
            · obtain ⟨rfl, rfl⟩ := List.cons.inj hsplit
              exact Except.error.inj (hfirst.symm.trans ha)
            · have hread := hbefore first List.mem_cons_self
              simp [hfirst] at hread
      | ok result =>
          have hrest : collect f (first :: items) = .error fault ↔
              collect f items = .error fault := by
            rw [collect_cons_of_ok hfirst]
            cases collect f items with
            | error e => simp [Except.map]
            | ok bs => simp [Except.map]
          rw [hrest, ih]
          constructor
          · rintro ⟨before, a, after, rfl, hbefore, ha⟩
            exact ⟨first :: before, a, after, Or.inr ⟨before, rfl, rfl⟩,
              List.forall_mem_cons.mpr ⟨⟨result, hfirst⟩, hbefore⟩, ha⟩
          · rintro ⟨before, a, after, ⟨rfl, hsplit⟩ | ⟨tail, rfl, hsplit⟩, hbefore, ha⟩
            · obtain ⟨rfl, rfl⟩ := List.cons.inj hsplit
              rw [hfirst] at ha
              cases ha
            · exact ⟨tail, a, after, hsplit, (List.forall_mem_cons.mp hbefore).2, ha⟩

end SpanRules
