import SpanRules.Automaton.Basic
import SpanRules.Proofs.Pattern.Meaning

/-! # The texts that a pattern needs

A slot that requires a match needs every text it compares with. So a pattern matches only where
all the texts of such slots occur.
-/

namespace SpanRules

/-- Every text that a slot for one token, or for one or more, compares with is the value of that
attribute at some token. -/
def Pattern.LiteralsOccur (p : Pattern) (view : TokenView) : Prop :=
  ∀ slot ∈ p.slots, slot.quantifier = .one ∨ slot.quantifier = .oneOrMore →
    ∀ attr id, (attr, AttributeValue.text id) ∈ slot.condition.checks →
      ∃ i < view.size, view.attr i attr = .text id

theorem AttributeValue.textId?_eq_some_iff {value : AttributeValue} {id : TextId} :
    value.textId? = some id ↔ value = .text id := by
  cases value <;> simp [textId?]

theorem Quantifier.requiresMatch_iff {q : Quantifier} :
    q.requiresMatch = true ↔ q = .one ∨ q = .oneOrMore := by
  cases q <;> simp [requiresMatch]

theorem Condition.mem_literals {c : Condition} {attr : Attribute} {id : TextId} :
    (attr, id) ∈ c.literals ↔ (attr, AttributeValue.text id) ∈ c.checks := by
  simp only [literals, List.mem_filterMap, Option.map_eq_some_iff,
    AttributeValue.textId?_eq_some_iff, Prod.mk.injEq]
  constructor
  · rintro ⟨⟨a, value⟩, hcheck, i, rfl, rfl, rfl⟩
    exact hcheck
  · intro hcheck
    exact ⟨_, hcheck, id, rfl, rfl, rfl⟩

namespace Pattern

variable {p : Pattern} {view : TokenView}

theorem mem_required {attr : Attribute} {id : TextId} :
    (attr, id) ∈ p.required ↔ ∃ slot ∈ p.slots, slot.quantifier.requiresMatch = true ∧
      (attr, AttributeValue.text id) ∈ slot.condition.checks := by
  simp [required, Condition.mem_literals, and_assoc]

theorem literalsOccur_iff :
    p.LiteralsOccur view ↔
      ∀ literal ∈ p.required, ∃ i < view.size, view.attr i literal.1 = .text literal.2 := by
  constructor
  · intro h literal hliteral
    obtain ⟨slot, hslot, hq, hcheck⟩ := mem_required.mp hliteral
    exact h slot hslot (Quantifier.requiresMatch_iff.mp hq) _ _ hcheck
  · intro h slot hslot hq attr id hcheck
    exact h (attr, id)
      (mem_required.mpr ⟨slot, hslot, Quantifier.requiresMatch_iff.mpr hq, hcheck⟩)

instance : Decidable (p.LiteralsOccur view) :=
  decidable_of_iff _ literalsOccur_iff.symm

/-- All the texts that a pattern needs occur in each of its matches. -/
theorem Matches.literalsOccur {start stop : Nat} (h : p.Matches view start stop)
    (hstop : stop ≤ view.size) : p.LiteralsOccur view := by
  intro slot hslot hq attr id hcheck
  obtain ⟨i, -, hi, hholds⟩ := Fits.exists_holds h hslot (Quantifier.requiresMatch_iff.mpr hq)
  refine ⟨i, hi.trans_le hstop, ?_⟩
  simp only [Condition.holds, Bool.and_eq_true, List.all_eq_true, decide_eq_true_eq] at hholds
  exact hholds.2 _ hcheck

end Pattern

end SpanRules
