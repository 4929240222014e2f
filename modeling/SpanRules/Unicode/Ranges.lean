/-! # Sets of code points -/

namespace SpanRules.Unicode

/-- A set of code points, as closed intervals in increasing order. -/
abbrev Ranges := List (Nat × Nat)

/-- Membership; the search ends at the first interval that lies above the code point. -/
def Ranges.covers : Ranges → Nat → Bool
  | [], _ => false
  | (first, last) :: rest, n => if n < first then false else n ≤ last || Ranges.covers rest n

/-- Below the first interval nothing is covered. -/
theorem Ranges.covers_cons_of_lt {first last n : Nat} {rest : Ranges} (h : n < first) :
    Ranges.covers ((first, last) :: rest) n = false := by
  simp [Ranges.covers, h]

/-- Inside the first interval everything is covered. -/
theorem Ranges.covers_cons_of_mem {first last n : Nat} {rest : Ranges} (h : first ≤ n)
    (h' : n ≤ last) : Ranges.covers ((first, last) :: rest) n = true := by
  simp [Ranges.covers, Nat.not_lt.mpr h, h']

end SpanRules.Unicode
