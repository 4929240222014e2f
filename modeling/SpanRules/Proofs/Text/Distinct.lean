import Mathlib.Data.Char
import Mathlib.Data.List.Nodup
import SpanRules.Text.Id

/-! # Texts that identities tell apart

Most results hold for every hash. Those that read texts back assume that the hash tells them apart:
the texts at hand, or all texts at once. There are hashes that tell all texts apart, since
identities are numbers of any size.
-/

namespace SpanRules

theorem toNat_lt (c : Char) : c.toNat < 0x110000 := by
  have h := c.valid
  simp only [UInt32.isValidChar, Nat.isValidChar] at h
  simp only [Char.toNat]
  omega

namespace TextId

section Hash

variable [Hashing] {texts more : List String} {a b : String}

/-- Different texts of a list have different identities. -/
def DistinctOn (texts : List String) : Prop :=
  ∀ a ∈ texts, ∀ b ∈ texts, of a = of b → a = b

instance (texts : List String) : Decidable (DistinctOn texts) :=
  inferInstanceAs (Decidable (∀ a ∈ texts, ∀ b ∈ texts, of a = of b → a = b))

/-- Different texts have different identities. -/
def Distinct : Prop :=
  ∀ a b : String, of a = of b → a = b

theorem Distinct.on (h : Distinct) (texts : List String) : DistinctOn texts :=
  fun a _ b _ => h a b

theorem Distinct.of_inj (h : Distinct) : of a = of b ↔ a = b :=
  ⟨h a b, congrArg of⟩

theorem DistinctOn.mono (h : DistinctOn more) (hsub : texts ⊆ more) : DistinctOn texts :=
  fun a ha b hb => h a (hsub ha) b (hsub hb)

/-- The empty text is told apart from every other one. -/
theorem DistinctOn.cons_empty (h : DistinctOn texts) : DistinctOn ("" :: texts) := by
  intro a ha b hb hid
  rcases List.mem_cons.mp ha with rfl | ha
  · exact (of_eq_empty_iff.mp hid.symm).symm
  · rcases List.mem_cons.mp hb with rfl | hb
    · exact of_eq_empty_iff.mp hid
    · exact h a ha b hb hid

theorem DistinctOn.nodup_map (h : DistinctOn texts) (hnodup : texts.Nodup) :
    (texts.map of).Nodup :=
  hnodup.map_on fun a ha b hb => h a ha b hb

end Hash

end TextId

/-! ## Numbering all texts -/

namespace Hashing

/-- Numbers the finite sequences of characters: each character is a digit from one upwards. -/
def codeOf : List Char → Nat
  | [] => 0
  | c :: cs => c.toNat + 1 + 0x110000 * codeOf cs

/-- The hash that numbers the texts. -/
@[reducible] def numbered : Hashing where
  hash text := codeOf text.toList

theorem codeOf_injective {cs ds : List Char} (h : codeOf cs = codeOf ds) : cs = ds := by
  induction cs generalizing ds with
  | nil =>
      cases ds with
      | nil => rfl
      | cons d ds => simp only [codeOf] at h; omega
  | cons c cs ih =>
      cases ds with
      | nil => simp only [codeOf] at h; omega
      | cons d ds =>
          have hc := toNat_lt c
          have hd := toNat_lt d
          simp only [codeOf] at h
          rw [Char.toNat_inj.mp (show c.toNat = d.toNat by omega),
            ih (show codeOf cs = codeOf ds by omega)]

theorem codeOf_pos {cs : List Char} (h : cs ≠ []) : 0 < codeOf cs := by
  obtain ⟨c, rest, rfl⟩ := List.exists_cons_of_ne_nil h
  simp only [codeOf]
  omega

theorem code_of_numbered (text : String) :
    letI := numbered
    (TextId.of text).code = codeOf text.toList := by
  let _ := numbered
  by_cases hempty : text = ""
  · subst hempty
    rfl
  · have hpositive := codeOf_pos (mt String.toList_eq_nil_iff.mp hempty)
    rw [TextId.of, if_neg hempty]
    exact Nat.max_eq_left hpositive

/-- Numbers tell all texts apart. -/
theorem distinct_numbered :
    letI := numbered
    TextId.Distinct := by
  intro a b h
  have hcodes := congrArg TextId.code h
  rw [code_of_numbered, code_of_numbered] at hcodes
  exact String.toList_inj.mp (codeOf_injective hcodes)

end Hashing

end SpanRules
