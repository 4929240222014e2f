/-! # Identities of texts

Texts are compared by identity: a number that a hash makes of the text alone, so that two parties
agree on it without sharing anything. The hash is a parameter. Texts that it takes to one number
have one identity, and nothing tells them apart. The text itself is kept by a lexicon.
-/

namespace SpanRules

/-- A hash of texts. -/
class Hashing where
  hash : String → Nat

/-- The identity of a text. -/
structure TextId where
  code : Nat
deriving DecidableEq, Repr

namespace TextId

/-- The identity of the empty text. -/
def empty : TextId :=
  ⟨0⟩

variable [Hashing]

/-- The identity of a text. Zero is kept for the empty text. -/
def of (text : String) : TextId :=
  if text = "" then empty else ⟨max (Hashing.hash text) 1⟩

@[simp] theorem of_empty : of "" = empty := rfl

theorem of_eq_empty_iff {text : String} : of text = empty ↔ text = "" := by
  by_cases hempty : text = ""
  · simp [hempty]
  · have hpositive : max (Hashing.hash text) 1 ≠ 0 := by omega
    simp [of, empty, hempty, hpositive]

end TextId

end SpanRules
