import Mathlib.Computability.Language
import SpanRules.Proofs.Text.Fields
import SpanRules.Text.Expression

/-! # Languages of expressions

An expression stands for a language, and the derivative by a character stands for what may follow
it there. So the texts that an expression accepts are those of its language. Expressions with
separators between their parts accept a text by its fields.
-/

namespace SpanRules

open Computability

namespace Expression

/-- The texts that an expression stands for. -/
def language : Expression → Language Char
  | .never => 0
  | .nothing => 1
  | .one test => {text | ∃ c, test c = true ∧ text = [c]}
  | .seq a b => a.language * b.language
  | .either a b => a.language + b.language
  | .many a => a.language∗

variable {a b e : Expression} {c : Char} {test : Char → Bool} {text : List Char}

@[simp] theorem mem_language_one :
    text ∈ (one test).language ↔ ∃ c, test c = true ∧ text = [c] :=
  Iff.rfl

theorem language_seq (a b : Expression) : (seq a b).language = a.language * b.language := rfl

theorem language_either (a b : Expression) :
    (either a b).language = a.language + b.language := rfl

theorem language_andThen (a b : Expression) :
    (andThen a b).language = a.language * b.language := by
  cases a with
  | never => exact (zero_mul _).symm
  | nothing => exact (one_mul _).symm
  | one test => rfl
  | seq a a' => rfl
  | either a a' => rfl
  | many a => rfl

theorem language_orElse (a b : Expression) :
    (orElse a b).language = a.language + b.language := by
  unfold orElse
  split
  · exact (zero_add _).symm
  · exact (add_zero _).symm
  · rfl

theorem acceptsEmpty_iff : e.acceptsEmpty = true ↔ [] ∈ e.language := by
  induction e with
  | never => simp [acceptsEmpty, language]
  | nothing => simp [acceptsEmpty, language]
  | one test => simp [acceptsEmpty]
  | seq a b iha ihb => simp [acceptsEmpty, language, Language.mem_mul, iha, ihb]
  | either a b iha ihb =>
      rw [acceptsEmpty, Bool.or_eq_true, iha, ihb]
      rfl
  | many a => simp [acceptsEmpty, language, Language.nil_mem_kstar]

/-- A text that starts with a character starts in the first part, or the first part is empty. -/
theorem cons_mem_mul {l m : Language Char} : c :: text ∈ l * m ↔
    (∃ x y, c :: x ∈ l ∧ y ∈ m ∧ x ++ y = text) ∨ [] ∈ l ∧ c :: text ∈ m := by
  rw [Language.mem_mul]
  constructor
  · rintro ⟨x, hx, y, hy, heq⟩
    cases x with
    | nil => exact Or.inr ⟨hx, heq ▸ hy⟩
    | cons d x =>
        obtain ⟨rfl, rfl⟩ := List.cons.inj heq
        exact Or.inl ⟨x, y, hx, hy, rfl⟩
  · rintro (⟨x, y, hx, hy, rfl⟩ | ⟨hx, hy⟩)
    · exact ⟨c :: x, hx, y, hy, rfl⟩
    · exact ⟨[], hx, _, hy, rfl⟩

/-- A text in several parts that starts with a character starts in a part that is not empty. -/
theorem cons_mem_kstar {l : Language Char} :
    c :: text ∈ l∗ ↔ ∃ x y, c :: x ∈ l ∧ y ∈ l∗ ∧ x ++ y = text := by
  constructor
  · intro h
    obtain ⟨parts, heq, hparts⟩ := Language.mem_kstar_iff_exists_nonempty.mp h
    cases parts with
    | nil => cases heq
    | cons part parts =>
        obtain ⟨hpart, hne⟩ := hparts part List.mem_cons_self
        obtain ⟨d, x, rfl⟩ := List.exists_cons_of_ne_nil hne
        obtain ⟨rfl, rfl⟩ := List.cons.inj heq
        have hrest : parts.flatten ∈ l∗ :=
          Language.join_mem_kstar fun y hy => (hparts y (List.mem_cons_of_mem _ hy)).1
        exact ⟨x, parts.flatten, hpart, hrest, rfl⟩
  · rintro ⟨x, y, hx, hy, rfl⟩
    rw [← Language.one_add_self_mul_kstar_eq_kstar]
    exact Or.inr (Language.append_mem_mul hx hy)

/-- The derivative stands for what may follow the character. -/
theorem mem_language_derive : text ∈ (e.derive c).language ↔ c :: text ∈ e.language := by
  induction e generalizing text with
  | never => exact Iff.rfl
  | nothing => simp [derive, language]
  | one test =>
      rw [derive, mem_language_one]
      split
      · rename_i hc
        simp [language, hc]
      · rename_i hc
        simp [language, hc]
  | seq a b iha ihb =>
      have hfirst : text ∈ (andThen (a.derive c) b).language ↔
          ∃ x y, c :: x ∈ a.language ∧ y ∈ b.language ∧ x ++ y = text := by
        simp [language_andThen, Language.mem_mul, iha]
      rw [derive, language, cons_mem_mul, ← acceptsEmpty_iff]
      split
      · rename_i hempty
        rw [language_orElse, Language.mem_add, hfirst, ihb]
        simp [hempty]
      · rename_i hempty
        simp [hfirst, hempty]
  | either a b iha ihb =>
      rw [derive, language_orElse, Language.mem_add, iha, ihb]
      rfl
  | many a ih =>
      rw [derive, language_andThen, language, cons_mem_kstar, Language.mem_mul]
      simp [ih]

/-- An expression accepts the texts that it stands for. -/
theorem accepts_iff : e.accepts text = true ↔ text ∈ e.language := by
  induction text generalizing e with
  | nil => exact acceptsEmpty_iff
  | cons c text ih => exact ih.trans mem_language_derive

/-! ## Alternatives and sequences -/

theorem language_maybe (e : Expression) : (maybe e).language = e.language + 1 := rfl

/-- The last one of one or more may be set apart. -/
theorem language_plus (e : Expression) : (plus e).language = (many e).language * e.language :=
  (Language.mul_self_kstar_comm e.language).symm

theorem mem_language_maybe : text ∈ (maybe e).language ↔ text ∈ e.language ∨ text = [] :=
  Iff.rfl

theorem mem_mul_maybe {l : Language Char} :
    text ∈ l * (maybe e).language ↔ text ∈ l * e.language ∨ text ∈ l := by
  rw [language_maybe, mul_add, mul_one, Language.mem_add]

theorem mem_language_foldr_either {es : List Expression} :
    text ∈ (es.foldr either never).language ↔ ∃ e ∈ es, text ∈ e.language := by
  induction es with
  | nil => simp [language]
  | cons e es ih => rw [List.foldr_cons, language, Language.mem_add, ih, List.exists_mem_cons_iff]

@[simp] theorem language_inRow_nil : (inRow []).language = 1 := rfl

@[simp] theorem language_inRow_cons (e : Expression) (es : List Expression) :
    (inRow (e :: es)).language = e.language * (inRow es).language := rfl

theorem language_inRow_append (es es' : List Expression) :
    (inRow (es ++ es')).language = (inRow es).language * (inRow es').language := by
  induction es with
  | nil => simp
  | cons e es ih => simp [ih, mul_assoc]

/-! ## Runs of characters -/

theorem mem_language_many_one :
    text ∈ (many (one test)).language ↔ ∀ c ∈ text, test c = true := by
  rw [language]
  induction text with
  | nil => simp [Language.nil_mem_kstar]
  | cons c text ih =>
      rw [cons_mem_kstar, List.forall_mem_cons, ← ih]
      constructor
      · rintro ⟨x, y, ⟨d, hd, heq⟩, hy, rfl⟩
        obtain ⟨rfl, rfl⟩ := List.cons.inj heq
        exact ⟨hd, hy⟩
      · rintro ⟨hc, htext⟩
        exact ⟨[], text, ⟨c, hc, rfl⟩, htext, rfl⟩

theorem mem_language_plus_one :
    text ∈ (plus (one test)).language ↔ text ≠ [] ∧ ∀ c ∈ text, test c = true := by
  rw [plus, language, Language.mem_mul]
  simp only [mem_language_many_one]
  constructor
  · rintro ⟨_, ⟨c, hc, rfl⟩, y, hy, rfl⟩
    exact ⟨List.cons_ne_nil c y, List.forall_mem_cons.mpr ⟨hc, hy⟩⟩
  · rintro ⟨hne, htests⟩
    obtain ⟨c, y, rfl⟩ := List.exists_cons_of_ne_nil hne
    obtain ⟨hc, hy⟩ := List.forall_mem_cons.mp htests
    exact ⟨[c], ⟨c, hc, rfl⟩, y, hy, rfl⟩

/-- One character after the other, each with its own test. -/
theorem mem_language_inRow_one {α : Type} {test : α → Char → Bool} {r : Char → α → Prop}
    {l : List α} (h : ∀ x ∈ l, ∀ c, test x c = true ↔ r c x) :
    text ∈ (inRow (l.map fun x => one (test x))).language ↔ List.Forall₂ r text l := by
  induction l generalizing text with
  | nil => simp [inRow, language]
  | cons x l ih =>
      obtain ⟨hx, hl⟩ := List.forall_mem_cons.mp h
      rw [List.map_cons, language_inRow_cons, Language.mem_mul, List.forall₂_cons_right_iff]
      constructor
      · rintro ⟨_, ⟨c, hc, rfl⟩, y, hy, rfl⟩
        exact ⟨c, y, (hx c).mp hc, (ih hl).mp hy, rfl⟩
      · rintro ⟨c, y, hc, hy, rfl⟩
        exact ⟨[c], ⟨c, (hx c).mpr hc, rfl⟩, y, (ih hl).mpr hy, rfl⟩

/-! ## Parts between separators -/

section Separated

variable {separates : Char → Bool} {body last : Expression} {l : Language Char}

theorem mem_mul_separator {m : Language Char} : text ∈ l * ((one separates).language * m) ↔
    ∃ x c y, separates c = true ∧ x ∈ l ∧ y ∈ m ∧ text = x ++ c :: y := by
  simp only [Language.mem_mul, mem_language_one]
  constructor
  · rintro ⟨x, hx, _, ⟨_, ⟨c, hc, rfl⟩, y, hy, rfl⟩, rfl⟩
    exact ⟨x, c, y, hc, hx, hy, rfl⟩
  · rintro ⟨x, c, y, hc, hx, hy, rfl⟩
    exact ⟨x, hx, c :: y, ⟨[c], ⟨c, hc, rfl⟩, y, hy, rfl⟩, rfl⟩

theorem fields_append_flatten (hbody : ∀ x ∈ body.language, ∀ c ∈ x, separates c = false)
    {x : List Char} (hx : x ∈ body.language) {parts : List (List Char)}
    (hparts : ∀ part ∈ parts, part ∈ (seq (one separates) body).language) :
    ∀ y ∈ fields separates (x ++ parts.flatten), y ∈ body.language := by
  induction parts generalizing x with
  | nil =>
      rw [List.flatten_nil, List.append_nil, fields_eq_singleton (hbody x hx)]
      exact List.forall_mem_singleton.mpr hx
  | cons part parts ih =>
      obtain ⟨hpart, hrest⟩ := List.forall_mem_cons.mp hparts
      obtain ⟨_, ⟨c, hc, rfl⟩, z, hz, rfl⟩ := Language.mem_mul.mp hpart
      rw [List.flatten_cons, List.append_assoc, List.singleton_append, fields_append_cons hc,
        fields_eq_singleton (hbody x hx), List.singleton_append]
      exact List.forall_mem_cons.mpr ⟨hx, ih hz hrest⟩

/-- Parts without separators and separators between them: every field is a part. -/
theorem mem_language_separated (hbody : ∀ x ∈ body.language, ∀ c ∈ x, separates c = false) :
    text ∈ (seq body (many (seq (one separates) body))).language ↔
      ∀ x ∈ fields separates text, x ∈ body.language := by
  constructor
  · intro h
    obtain ⟨x, hx, _, hrest, rfl⟩ := Language.mem_mul.mp h
    obtain ⟨parts, rfl, hparts⟩ := Language.mem_kstar.mp hrest
    exact fields_append_flatten hbody hx hparts
  · intro h
    induction hk : text.length using Nat.strong_induction_on generalizing text with
    | _ k ih =>
        rcases exists_last_separator separates text with hnone | ⟨x, c, y, rfl, hc, hy⟩
        · rw [fields_eq_singleton hnone, List.forall_mem_singleton] at h
          exact ⟨text, h, [], Language.nil_mem_kstar _, List.append_nil text⟩
        · rw [fields_append_last hc hy, List.forall_mem_append, List.forall_mem_singleton] at h
          have hx : x ∈ (seq body (many (seq (one separates) body))).language := by
            refine ih x.length ?_ h.1 rfl
            rw [← hk, List.length_append, List.length_cons]
            omega
          obtain ⟨z, hz, rest, hrest, rfl⟩ := Language.mem_mul.mp hx
          have hlast : c :: y ∈ (seq (one separates) body).language :=
            ⟨[c], ⟨c, hc, rfl⟩, y, h.2, rfl⟩
          have hmore : rest ++ c :: y ∈ (many (seq (one separates) body)).language :=
            Set.mem_of_mem_of_subset (Language.append_mem_mul hrest hlast)
              (kstar_mul_le_kstar (a := (seq (one separates) body).language))
          exact ⟨z, hz, rest ++ c :: y, hmore, (List.append_assoc z rest _).symm⟩

/-- When the last part has a form of its own, so has the last field. -/
theorem mem_language_separated_last
    (hbody : ∀ x ∈ body.language, ∀ c ∈ x, separates c = false)
    (hlast : ∀ x ∈ last.language, x ∈ body.language) :
    text ∈ (seq body (many (seq (one separates) body))).language *
        ((one separates).language * last.language) ↔
      2 ≤ (fields separates text).length ∧ (∀ x ∈ fields separates text, x ∈ body.language) ∧
        ∃ x ∈ (fields separates text).getLast?, x ∈ last.language := by
  rw [mem_mul_separator]
  constructor
  · rintro ⟨x, c, y, hc, hx, hy, rfl⟩
    rw [mem_language_separated hbody] at hx
    rw [fields_append_last hc (hbody y (hlast y hy))]
    refine ⟨?_, ?_, y, by simp, hy⟩
    · have hpos := List.length_pos_iff.mpr (fields_ne_nil separates x)
      rw [List.length_append, List.length_singleton]
      omega
    · exact List.forall_mem_append.mpr ⟨hx, List.forall_mem_singleton.mpr (hlast y hy)⟩
  · rintro ⟨hlength, hall, y, hy, hmem⟩
    rcases exists_last_separator separates text with hnone | ⟨x, c, z, rfl, hc, hz⟩
    · rw [fields_eq_singleton hnone] at hlength
      exact absurd hlength (Nat.not_succ_le_self 1)
    · rw [fields_append_last hc hz] at hall hy
      obtain rfl : z = y := by simpa using hy
      exact ⟨x, c, z, hc, (mem_language_separated hbody).mpr fun w hw =>
        hall w (List.mem_append_left _ hw), hmem, rfl⟩

end Separated

/-! ## Characters that stand nowhere -/

/-- No part of the expression reads the character. -/
def avoids (c : Char) : Expression → Bool
  | .never => true
  | .nothing => true
  | .one test => !test c
  | .seq a b => a.avoids c && b.avoids c
  | .either a b => a.avoids c && b.avoids c
  | .many a => a.avoids c

/-- A character that no part reads stands in no text. -/
theorem not_mem_of_avoids (h : e.avoids c = true) (htext : text ∈ e.language) : c ∉ text := by
  induction e generalizing text with
  | never => cases htext
  | nothing =>
      rw [show text = [] from htext]
      exact List.not_mem_nil
  | one test =>
      obtain ⟨d, hd, rfl⟩ := htext
      intro hmem
      rw [List.mem_singleton.mp hmem] at h
      simp [avoids, hd] at h
  | seq a b iha ihb =>
      obtain ⟨ha, hb⟩ := Bool.and_eq_true_iff.mp h
      obtain ⟨x, hx, y, hy, rfl⟩ := Language.mem_mul.mp htext
      rw [List.mem_append, not_or]
      exact ⟨iha ha hx, ihb hb hy⟩
  | either a b iha ihb =>
      obtain ⟨ha, hb⟩ := Bool.and_eq_true_iff.mp h
      rcases htext with htext | htext
      · exact iha ha htext
      · exact ihb hb htext
  | many a ih =>
      obtain ⟨parts, rfl, hparts⟩ := Language.mem_kstar.mp htext
      rw [List.mem_flatten]
      intro hmem
      obtain ⟨part, hpart, hc⟩ := hmem
      exact ih h (hparts part hpart) hc

end Expression

end SpanRules
