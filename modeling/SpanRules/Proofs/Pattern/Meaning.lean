import Mathlib.Order.Nat
import SpanRules.Pattern.Basic

/-! # The meaning of patterns

A pattern matches a span when the span can be cut into consecutive segments, one for each slot
and in their order, each of which its slot takes. No automaton is involved.
-/

namespace SpanRules

/-- The condition holds on every token from `start` to before `stop`. -/
def Condition.HoldsOn (c : Condition) (view : TokenView) (start stop : Nat) : Prop :=
  ∀ i, start ≤ i → i < stop → c.holds view i = true

/-- The tokens from `start` to before `stop` are a segment that the slot takes. -/
def Slot.Takes (slot : Slot) (view : TokenView) (start stop : Nat) : Prop :=
  match slot.quantifier with
  | .one => stop = start + 1 ∧ slot.condition.holds view start = true
  | .negated => stop = start + 1 ∧ slot.condition.holds view start = false
  | .optional => start ≤ stop ∧ stop ≤ start + 1 ∧ slot.condition.HoldsOn view start stop
  | .oneOrMore => start < stop ∧ slot.condition.HoldsOn view start stop
  | .zeroOrMore => start ≤ stop ∧ slot.condition.HoldsOn view start stop

/-- The tokens from `start` to before `stop` can be cut into one segment for each slot. -/
def Fits (view : TokenView) : List Slot → Nat → Nat → Prop
  | [], start, stop => start = stop
  | slot :: rest, start, stop => ∃ cut, slot.Takes view start cut ∧ Fits view rest cut stop

/-- The pattern matches the tokens from `start` to before `stop`. -/
def Pattern.Matches (p : Pattern) (view : TokenView) (start stop : Nat) : Prop :=
  Fits view p.slots start stop

/-! ## Segments -/

section Segments

variable {c : Condition} {slot : Slot} {view : TokenView} {start stop : Nat}

theorem Condition.holdsOn_self : c.HoldsOn view start start := by
  intro i hlow hhigh
  omega

theorem Condition.holdsOn_succ (h : start < stop) :
    c.HoldsOn view start stop ↔
      c.holds view start = true ∧ c.HoldsOn view (start + 1) stop := by
  constructor
  · intro hc
    exact ⟨hc start le_rfl h, fun i hlow hhigh => hc i (by omega) hhigh⟩
  · rintro ⟨hfirst, hrest⟩ i hlow hhigh
    rcases hlow.eq_or_lt with rfl | hlow
    · exact hfirst
    · exact hrest i hlow hhigh

theorem Slot.Takes.le (h : slot.Takes view start stop) : start ≤ stop := by
  unfold Slot.Takes at h
  split at h <;> omega

theorem Slot.takes_one (hq : slot.quantifier = .one) :
    slot.Takes view start stop ↔
      slot.condition.holds view start = true ∧ stop = start + 1 := by
  rw [Slot.Takes, hq]
  exact and_comm

theorem Slot.takes_negated (hq : slot.quantifier = .negated) :
    slot.Takes view start stop ↔
      slot.condition.holds view start = false ∧ stop = start + 1 := by
  rw [Slot.Takes, hq]
  exact and_comm

/-- An optional slot takes nothing, or one token on which its condition holds. -/
theorem Slot.takes_optional (hq : slot.quantifier = .optional) :
    slot.Takes view start stop ↔
      slot.condition.holds view start = true ∧ stop = start + 1 ∨ stop = start := by
  rw [Slot.Takes, hq]
  constructor
  · rintro ⟨hlow, hhigh, hc⟩
    rcases hlow.eq_or_lt with rfl | hlow
    · exact Or.inr rfl
    · exact Or.inl ⟨hc start le_rfl hlow, by omega⟩
  · rintro (⟨hc, rfl⟩ | rfl)
    · refine ⟨by omega, le_rfl, ?_⟩
      rw [Condition.holdsOn_succ (by omega)]
      exact ⟨hc, Condition.holdsOn_self⟩
    · exact ⟨le_rfl, by omega, Condition.holdsOn_self⟩

/-- A slot for any number of tokens takes nothing, or it takes a token and goes on. -/
theorem Slot.takes_zeroOrMore (hq : slot.quantifier = .zeroOrMore) :
    slot.Takes view start stop ↔
      slot.condition.holds view start = true ∧ slot.Takes view (start + 1) stop ∨
        stop = start := by
  simp only [Slot.Takes, hq]
  constructor
  · rintro ⟨hlow, hc⟩
    rcases hlow.eq_or_lt with rfl | hlow
    · exact Or.inr rfl
    · rw [Condition.holdsOn_succ hlow] at hc
      exact Or.inl ⟨hc.1, by omega, hc.2⟩
  · rintro (⟨hfirst, hlow, hrest⟩ | rfl)
    · exact ⟨by omega, (Condition.holdsOn_succ (by omega)).mpr ⟨hfirst, hrest⟩⟩
    · exact ⟨le_rfl, Condition.holdsOn_self⟩

/-- A slot for one or more tokens takes a token and goes on like one for any number. -/
theorem Slot.takes_oneOrMore (hq : slot.quantifier = .oneOrMore) :
    slot.Takes view start stop ↔
      slot.condition.holds view start = true ∧
        Slot.Takes ⟨slot.condition, .zeroOrMore⟩ view (start + 1) stop := by
  simp only [Slot.Takes, hq]
  constructor
  · rintro ⟨hlow, hc⟩
    rw [Condition.holdsOn_succ hlow] at hc
    exact ⟨hc.1, by omega, hc.2⟩
  · rintro ⟨hfirst, hlow, hrest⟩
    exact ⟨by omega, (Condition.holdsOn_succ (by omega)).mpr ⟨hfirst, hrest⟩⟩

end Segments

/-! ## Spans -/

theorem Fits.le {view : TokenView} {slots : List Slot} {start stop : Nat}
    (h : Fits view slots start stop) : start ≤ stop := by
  induction slots generalizing start with
  | nil => exact Nat.le_of_eq h
  | cons slot rest ih =>
      obtain ⟨cut, hslot, hrest⟩ := h
      exact hslot.le.trans (ih hrest)

theorem fits_append {view : TokenView} {slots others : List Slot} {start stop : Nat} :
    Fits view (slots ++ others) start stop ↔
      ∃ cut, Fits view slots start cut ∧ Fits view others cut stop := by
  induction slots generalizing start with
  | nil => simp [Fits]
  | cons slot rest ih =>
      simp only [List.cons_append, Fits, ih]
      constructor
      · rintro ⟨first, hslot, cut, hrest, hothers⟩
        exact ⟨cut, ⟨first, hslot, hrest⟩, hothers⟩
      · rintro ⟨cut, ⟨first, hslot, hrest⟩, hothers⟩
        exact ⟨first, hslot, cut, hrest, hothers⟩

/-- A slot that requires a match takes a token on which its condition holds. -/
theorem Slot.Takes.exists_holds {slot : Slot} {view : TokenView} {start stop : Nat}
    (h : slot.Takes view start stop) (hq : slot.quantifier.requiresMatch = true) :
    ∃ i, start ≤ i ∧ i < stop ∧ slot.condition.holds view i = true := by
  cases hcase : slot.quantifier with
  | one =>
      obtain ⟨hc, rfl⟩ := (Slot.takes_one hcase).mp h
      exact ⟨start, le_rfl, by omega, hc⟩
  | oneOrMore =>
      obtain ⟨hc, hrest⟩ := (Slot.takes_oneOrMore hcase).mp h
      exact ⟨start, le_rfl, by have := hrest.le; omega, hc⟩
  | optional => simp [hcase, Quantifier.requiresMatch] at hq
  | zeroOrMore => simp [hcase, Quantifier.requiresMatch] at hq
  | negated => simp [hcase, Quantifier.requiresMatch] at hq

/-- In a span that fits, every slot that requires a match finds its condition on some token. -/
theorem Fits.exists_holds {view : TokenView} {slots : List Slot} {start stop : Nat}
    (h : Fits view slots start stop) {slot : Slot} (hslot : slot ∈ slots)
    (hq : slot.quantifier.requiresMatch = true) :
    ∃ i, start ≤ i ∧ i < stop ∧ slot.condition.holds view i = true := by
  induction slots generalizing start with
  | nil => simp at hslot
  | cons first rest ih =>
      obtain ⟨cut, hfirst, hrest⟩ := h
      rcases List.mem_cons.mp hslot with rfl | hslot
      · obtain ⟨i, hlow, hhigh, hc⟩ := hfirst.exists_holds hq
        exact ⟨i, hlow, hhigh.trans_le hrest.le, hc⟩
      · obtain ⟨i, hlow, hhigh, hc⟩ := ih hrest hslot
        exact ⟨i, hfirst.le.trans hlow, hhigh, hc⟩

/-! ## Deciding a match -/

section Deciding

variable {view : TokenView} {start stop : Nat}

instance {c : Condition} : Decidable (c.HoldsOn view start stop) :=
  decidable_of_iff (∀ i < stop, start ≤ i → c.holds view i = true)
    ⟨fun h i hlow hhigh => h i hhigh hlow, fun h i hhigh hlow => h i hlow hhigh⟩

instance {slot : Slot} : Decidable (slot.Takes view start stop) :=
  match hq : slot.quantifier with
  | .one => decidable_of_iff _ (Slot.takes_one hq).symm
  | .negated => decidable_of_iff _ (Slot.takes_negated hq).symm
  | .optional => decidable_of_iff _ (Slot.takes_optional hq).symm
  | .oneOrMore =>
    decidable_of_iff (start < stop ∧ slot.condition.HoldsOn view start stop)
      (by rw [Slot.Takes, hq])
  | .zeroOrMore =>
    decidable_of_iff (start ≤ stop ∧ slot.condition.HoldsOn view start stop)
      (by rw [Slot.Takes, hq])

/-- No cut lies behind the end of the span, so the cuts to try are finitely many. -/
instance decidableFits (view : TokenView) :
    (slots : List Slot) → (start stop : Nat) → Decidable (Fits view slots start stop)
  | [], start, stop => inferInstanceAs (Decidable (start = stop))
  | slot :: rest, start, stop =>
    have := fun cut => decidableFits view rest cut stop
    decidable_of_iff (∃ cut < stop + 1, slot.Takes view start cut ∧ Fits view rest cut stop)
      ⟨fun ⟨cut, _, h⟩ => ⟨cut, h⟩, fun ⟨cut, h⟩ => ⟨cut, Nat.lt_succ_of_le h.2.le, h⟩⟩

instance {p : Pattern} : Decidable (p.Matches view start stop) :=
  inferInstanceAs (Decidable (Fits view p.slots start stop))

end Deciding

/-- Two slots for one or more tokens and one for one token share three tokens, but not two. -/
example :
    let always : Condition := { checks := [] }
    let p : Pattern := ⟨[⟨always, .oneOrMore⟩, ⟨always, .oneOrMore⟩, ⟨always, .one⟩], by decide⟩
    let view : TokenView := ⟨3, fun _ _ => .flag false⟩
    p.Matches view 0 3 ∧ ¬ p.Matches view 0 2 := by
  decide

end SpanRules
