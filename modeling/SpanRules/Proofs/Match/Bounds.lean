import SpanRules.Proofs.PhraseBook.Bounds
import SpanRules.Proofs.RuleBook.Bounds

/-! # Nothing is looked up outside

Documents cut spans and pass over indices behind the last token, so a checked document, which has
no result when a token is missing, does the same for all indices, stale ones included. Together
with the checked looks into books this covers all that is looked up by an index.
-/

namespace SpanRules

variable {σ : Type}

/-! ## Tokens of a document -/

namespace Document

/-- The text of a token, which has to be there. -/
def checkedWord (d : Document) (index : Nat) : Option String := do
  let t ← d.token? index
  return (d.resolve? t.orth).getD ""

def checkedTextAt (d : Document) (index : Nat) : Option String :=
  if index < d.size then d.checkedWord index else some ""

def checkedSpanText (d : Document) (start stop : Nat) : Option String := do
  let words ← (List.range' start (min stop d.size - start)).mapM d.checkedWord
  return joinWords words

/-- Puts a token in the place of a span, which has to lie among the tokens. -/
def checkedSplice (tokens : List Token) (start stop : Nat) (t : Token) : Option (List Token) :=
  if start ≤ stop ∧ stop ≤ tokens.length then some (tokens.take start ++ t :: tokens.drop stop)
  else none

/-- Changes a token, which has to be there unless the index is behind the last one. -/
def checkedModify (tokens : List Token) (index : Nat) (f : Token → Token) :
    Option (List Token) :=
  if index < tokens.length then do
    let t ← tokens[index]?
    return tokens.set index (f t)
  else some tokens

variable {d : Document} {index start stop : Nat}

theorem token?_of_lt (h : index < d.size) : ∃ t, d.token? index = some t :=
  ⟨_, List.getElem?_eq_getElem h⟩

theorem token?_of_le (h : d.size ≤ index) : d.token? index = none :=
  List.getElem?_eq_none h

theorem checkedWord_eq (h : index < d.size) : d.checkedWord index = some (d.textAt index) := by
  obtain ⟨t, ht⟩ := token?_of_lt h
  rw [checkedWord, textAt, ht]
  rfl

theorem checkedTextAt_eq (d : Document) (index : Nat) :
    d.checkedTextAt index = some (d.textAt index) := by
  by_cases h : index < d.size
  · rw [checkedTextAt, if_pos h, checkedWord_eq h]
  · rw [checkedTextAt, if_neg h, textAt, token?_of_le (Nat.le_of_not_lt h)]
    rfl

/-- A span is cut where the tokens end. -/
theorem checkedSpanText_eq (d : Document) (start stop : Nat) :
    d.checkedSpanText start stop = some (d.spanText start stop) := by
  have hwords : ∀ index ∈ List.range' start (min stop d.size - start),
      d.checkedWord index = some (d.textAt index) := by
    intro index hindex
    have := List.mem_range'_1.mp hindex
    exact checkedWord_eq (by omega)
  rw [checkedSpanText, mapM_eq_some_map hwords]
  rfl

theorem checkedModify_eq (tokens : List Token) (index : Nat) (f : Token → Token) :
    checkedModify tokens index f = some (tokens.modify index f) := by
  by_cases h : index < tokens.length
  · rw [checkedModify, if_pos h, List.getElem?_eq_getElem h, List.modify_eq_set_getElem?,
      List.getElem?_eq_getElem h]
    rfl
  · rw [checkedModify, if_neg h, List.modify_eq_self (Nat.le_of_not_lt h)]

variable [Hashing]

def checkedMerge (d : Document) (start stop : Nat) : Option (Document × Option Nat) :=
  if start < stop ∧ stop ≤ d.size then do
    let text ← d.checkedSpanText start stop
    let first ← d.token? start
    let tokens ← checkedSplice d.tokens start stop ((Token.ofWord text).withTagsOf first)
    return ({ lexicon := d.lexicon.addAll ((Features.of text).texts text), tokens }, some start)
  else some (d, none)

def checkedEdit (d : Document) : Edit → Option Document
  | .set index field value => do
    let tokens ← checkedModify d.tokens index fun t => t.set field (.of value)
    return { lexicon := d.lexicon.add value, tokens }
  | .mark index mask value => do
    let tokens ← checkedModify d.tokens index fun t => { t with flags := t.flags.assign mask value }
    return { d with tokens }
  | .merge start stop => do
    let merged ← d.checkedMerge start stop
    return merged.1

/-- Whatever is asked of the document, every token that is looked up is there. As a source of
tokens it answers for the tokens that it has, and for no others. -/
structure Inside (d : Document) : Prop where
  ask (index : Nat) (a : Attribute) : d.view.ask index a = (d.token? index).map (·.attr a)
  textAt (index : Nat) : d.checkedTextAt index = some (d.textAt index)
  spanText (start stop : Nat) : d.checkedSpanText start stop = some (d.spanText start stop)
  merge (start stop : Nat) : d.checkedMerge start stop = some (d.merge start stop)
  edit (e : Edit) : d.checkedEdit e = some (d.edit e)
  editAll (edits : List Edit) : edits.foldlM checkedEdit d = some (d.editAll edits)

theorem ask_view (d : Document) (index : Nat) (a : Attribute) :
    d.view.ask index a = (d.token? index).map (·.attr a) := by
  by_cases h : index < d.size
  · obtain ⟨t, ht⟩ := token?_of_lt h
    rw [TokenView.ask_of_lt h, ht, view]
    simp only [ht, Option.map_some]
  · have hview : ¬index < d.view.size := h
    rw [TokenView.ask, if_neg hview, token?_of_le (Nat.le_of_not_lt h), Option.map_none]

theorem checkedMerge_eq (d : Document) (start stop : Nat) :
    d.checkedMerge start stop = some (d.merge start stop) := by
  by_cases h : start < stop ∧ stop ≤ d.size
  · obtain ⟨first, hfirst⟩ := token?_of_lt (h.1.trans_le h.2)
    have hsplice (t : Token) : checkedSplice d.tokens start stop t =
        some (d.tokens.take start ++ t :: d.tokens.drop stop) :=
      if_pos ⟨h.1.le, h.2⟩
    rw [checkedMerge, if_pos h, merge, if_pos h, checkedSpanText_eq, hfirst]
    simp only [Option.bind_eq_bind, Option.bind_some, hsplice]
    rfl
  · rw [checkedMerge, if_neg h, merge, if_neg h]

theorem checkedEdit_eq (d : Document) (e : Edit) : d.checkedEdit e = some (d.edit e) := by
  cases e with
  | set index field value =>
      rw [checkedEdit, checkedModify_eq]
      rfl
  | mark index mask value =>
      rw [checkedEdit, checkedModify_eq]
      rfl
  | merge start stop =>
      rw [checkedEdit, checkedMerge_eq]
      rfl

theorem inside (d : Document) : d.Inside where
  ask := d.ask_view
  textAt := d.checkedTextAt_eq
  spanText := d.checkedSpanText_eq
  merge := d.checkedMerge_eq
  edit := d.checkedEdit_eq
  editAll _ := (foldlM_eq_some_foldl (P := fun _ : Document => True) trivial
    fun d e _ _ => ⟨d.checkedEdit_eq e, trivial⟩).1

end Document

/-! ## Books and documents -/

/-- After any changes, refused ones included, books never ask for a token behind the last one and
never follow a link, a position or an index to something that is missing, neither in a search nor
in a change nor on the way to a handler. Documents pass over all indices of missing tokens, also
after earlier edits. -/
theorem lookups_stay_inside [Hashing] (options : Options) (changes : List (RuleChange σ))
    (attr : TextAttribute) (entries : List (PhraseChange σ)) :
    (RuleBook.history options changes).Inside ∧ (PhraseBook.history attr entries).Inside ∧
      ∀ d : Document, d.Inside :=
  ⟨RuleBook.inside_history options changes, PhraseBook.inside_history attr entries,
    Document.inside⟩

end SpanRules
