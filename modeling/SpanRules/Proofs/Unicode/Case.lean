import SpanRules.Unicode.Alphabetic
import SpanRules.Unicode.Lowercase
import SpanRules.Unicode.Lowering
import SpanRules.Unicode.Uppercase

/-! # Classes of characters without a common member

Two sets of code points are apart when every interval of the one ends before the next interval of
the other starts. So no character is in upper and in lower case, and no digit is a letter. A space
is its own lower-case form.
-/

namespace SpanRules.Unicode

namespace Ranges

/-- No interval of the first set meets an interval of the second. What ends below one interval of
the first set ends below all that follow it. -/
def apart : Ranges → Ranges → Bool
  | [], _ => true
  | (first, last) :: rest, other =>
    let above := other.dropWhile fun interval => interval.2 < first
    above.head?.all (last < ·.1) && apart rest above

variable {ranges other rest : Ranges} {interval : Nat × Nat} {first n : Nat}

theorem covers_cons_iff : covers (interval :: rest) n = true ↔
    interval.1 ≤ n ∧ (n ≤ interval.2 ∨ covers rest n = true) := by
  rw [covers]
  split
  · rename_i hlt
    simp [Nat.not_le.mpr hlt]
  · rename_i hle
    simp [Nat.le_of_not_lt hle]

/-- Intervals that end below a code point do not cover it. -/
theorem covers_dropWhile (h : first ≤ n) (hcovers : ranges.covers n = true) :
    Ranges.covers (ranges.dropWhile fun interval => interval.2 < first) n = true := by
  induction ranges with
  | nil => cases hcovers
  | cons interval rest ih =>
      rw [List.dropWhile_cons]
      split
      · rename_i hbelow
        have hlt : interval.2 < n := Nat.lt_of_lt_of_le (of_decide_eq_true hbelow) h
        apply ih
        exact (covers_cons_iff.mp hcovers).2.resolve_left (Nat.not_le_of_lt hlt)
      · exact hcovers

theorem covers_eq_false_of_head (h : ranges.head?.all (n < ·.1) = true) :
    ranges.covers n = false := by
  cases ranges with
  | nil => rfl
  | cons interval rest => exact covers_cons_of_lt (of_decide_eq_true h)

/-- Sets that are apart have no member in common. -/
theorem covers_eq_false_of_apart (hapart : ranges.apart other = true)
    (hcovers : ranges.covers n = true) : other.covers n = false := by
  induction ranges generalizing other with
  | nil => cases hcovers
  | cons interval rest ih =>
      obtain ⟨hhead, hrest⟩ := Bool.and_eq_true_iff.mp hapart
      obtain ⟨hfirst, hmem⟩ := covers_cons_iff.mp hcovers
      apply Bool.eq_false_iff.mpr
      intro hother
      have habove := covers_dropWhile hfirst hother
      rcases hmem with hlast | hmem
      · have hlow : Ranges.covers (other.dropWhile fun i => i.2 < interval.1) n = false := by
          apply covers_eq_false_of_head
          rw [Option.all_eq_true] at hhead ⊢
          intro next hnext
          exact decide_eq_true (Nat.lt_of_le_of_lt hlast (of_decide_eq_true (hhead next hnext)))
        rw [hlow] at habove
        cases habove
      · rw [ih hrest hmem] at habove
        cases habove

end Ranges

variable {c : Char} {before text : List Char}

/-- No character is in upper and in lower case. -/
theorem isLowercase_eq_false_of_isUppercase (h : isUppercase c = true) :
    isLowercase c = false := by
  have hapart : uppercase.apart lowercase = true := by decide +kernel
  exact Ranges.covers_eq_false_of_apart hapart h

theorem toNat_of_isDigit (h : c.isDigit = true) : 0x30 ≤ c.toNat ∧ c.toNat ≤ 0x39 := by
  obtain ⟨hfirst, hlast⟩ := Bool.and_eq_true_iff.mp h
  exact ⟨UInt32.le_iff_toNat_le.mp (of_decide_eq_true hfirst),
    UInt32.le_iff_toNat_le.mp (of_decide_eq_true hlast)⟩

/-- What is apart from the digits of ASCII has none of them. -/
theorem covers_eq_false_of_isDigit {ranges : Ranges} (h : c.isDigit = true)
    (hapart : Ranges.apart [(0x30, 0x39)] ranges = true) : ranges.covers c.toNat = false := by
  apply Ranges.covers_eq_false_of_apart hapart
  obtain ⟨hfirst, hlast⟩ := toNat_of_isDigit h
  exact Ranges.covers_cons_of_mem hfirst hlast

/-- Lower-casing keeps the spaces of a text. -/
theorem space_mem_lowerAfter (h : ' ' ∈ text) : ' ' ∈ lowerAfter before text := by
  have hform : lowerForm ' ' = [' '] := by decide +kernel
  induction text generalizing before with
  | nil => cases h
  | cons c cs ih =>
      rw [lowerAfter, List.mem_append]
      rcases List.mem_cons.mp h with rfl | h
      · left
        rw [if_neg (by decide), hform]
        exact List.mem_singleton_self ' '
      · exact Or.inr (ih h)

theorem space_mem_lower {word : String} (h : ' ' ∈ word.toList) : ' ' ∈ (lower word).toList := by
  rw [lower, String.toList_ofList]
  exact space_mem_lowerAfter h

end SpanRules.Unicode
