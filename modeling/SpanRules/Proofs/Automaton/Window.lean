import Mathlib.Order.Nat
import SpanRules.Automaton.Search

/-! # Ordered sets of windows

The windows found so far stand in decreasing order, each once. Inserting keeps it so.
-/

namespace SpanRules.Window

variable {u v w : Window} {found windows : List Window}

theorem lt_iff : v.lt w = true ↔ v.start < w.start ∨ v.start = w.start ∧
    (v.stop < w.stop ∨ v.stop = w.stop ∧ v.rule < w.rule) := by
  simp [lt]

theorem lt_trans (huv : u.lt v = true) (hvw : v.lt w = true) : u.lt w = true := by
  rw [lt_iff] at *
  omega

theorem lt_or_eq_or_lt (v w : Window) : v.lt w = true ∨ v = w ∨ w.lt v = true := by
  obtain ⟨s, e, r⟩ := v
  obtain ⟨t, f, q⟩ := w
  simp only [lt_iff, mk.injEq]
  omega

instance : Std.Irrefl fun v w : Window => v.lt w = true :=
  ⟨fun v => by simp [lt]⟩

instance : Std.Antisymm fun v w : Window => v.lt w = true :=
  ⟨fun v w hvw hwv => absurd (lt_trans hvw hwv) (by simp [lt])⟩

@[simp] theorem mem_insert : v ∈ insert w found ↔ v = w ∨ v ∈ found := by
  induction found with
  | nil => simp [insert]
  | cons u rest ih =>
      rw [insert]
      split
      · simp
      · split
        · rename_i huw
          simp [huw]
        · simp only [List.mem_cons, ih]
          exact or_left_comm

/-- The windows stand in decreasing order. -/
def Decreasing (found : List Window) : Prop :=
  found.Pairwise fun v w => w.lt v = true

theorem Decreasing.insert (h : Decreasing found) : Decreasing (insert w found) := by
  induction found with
  | nil => exact List.pairwise_singleton _ _
  | cons u rest ih =>
      obtain ⟨hu, hrest⟩ := List.pairwise_cons.mp h
      rw [Window.insert]
      split
      · rename_i huw
        refine List.pairwise_cons.mpr ⟨fun v hv => ?_, h⟩
        rcases List.mem_cons.mp hv with rfl | hv
        · exact huw
        · exact lt_trans (hu v hv) huw
      · rename_i hnot
        split
        · exact h
        · rename_i hne
          refine List.pairwise_cons.mpr ⟨fun v hv => ?_, ih hrest⟩
          rcases mem_insert.mp hv with rfl | hv
          · rcases lt_or_eq_or_lt u v with hlt | heq | hlt
            · exact absurd hlt hnot
            · exact absurd heq hne
            · exact hlt
          · exact hu v hv

@[simp] theorem mem_foldl_insert :
    v ∈ windows.foldl (fun found w => w.insert found) found ↔ v ∈ found ∨ v ∈ windows := by
  induction windows generalizing found with
  | nil => simp
  | cons w windows ih =>
      rw [List.foldl_cons, ih, mem_insert, List.mem_cons, or_assoc, or_left_comm]

theorem Decreasing.foldl_insert (h : Decreasing found) :
    Decreasing (windows.foldl (fun found w => w.insert found) found) := by
  induction windows generalizing found with
  | nil => exact h
  | cons w windows ih => exact ih h.insert

end SpanRules.Window
