import Mathlib.Logic.Function.Basic
import Mathlib.Data.List.Basic
import SpanRules.Document.Basic
import SpanRules.Proofs.Text.Lexicon
import SpanRules.Text.Hash

/-! # Documents as lists of records

A document keeps identities beside a lexicon that grows. Whatever is done to it, it reads like a
list of records that keep the texts themselves, as long as these are told apart.
-/

namespace SpanRules

/-! ## Records -/

/-- What is free in a token: its text, the six fields that can be set, and its flags. -/
structure TokenRecord where
  text : String
  tags : TagField → String
  flags : FlagSet

namespace TokenRecord

/-- The record of a word: it has the tags that are given, but a norm of its own. -/
def ofWord (word : String) (tags : TagField → String) : TokenRecord where
  text := word
  tags := Function.update tags .norm (Features.of word).lower
  flags := (Features.of word).flags

def set (r : TokenRecord) (field : TagField) (value : String) : TokenRecord :=
  { r with tags := Function.update r.tags field value }

def mark (r : TokenRecord) (mask : FlagSet) (value : Bool) : TokenRecord :=
  { r with flags := r.flags.assign mask value }

/-- The text of an attribute. Where no field is asked for, the text of the record determines it. -/
def textOf (r : TokenRecord) : TextAttribute → String
  | .orth => r.text
  | .lower => (Features.of r.text).lower
  | .norm => r.tags .norm
  | .baseForm => r.tags .baseForm
  | .pos => r.tags .pos
  | .tag => r.tags .tag
  | .dep => r.tags .dep
  | .entityType => r.tags .entityType
  | .shape => (Features.of r.text).shape
  | .opening => (Features.of r.text).opening
  | .ending => (Features.of r.text).ending

def attr [Hashing] (r : TokenRecord) : Attribute → AttributeValue
  | .text a => .text (.of (r.textOf a))
  | .length => .number (Features.of r.text).length
  | .flag f => .flag (r.flags.has f)

/-- The token that stands for a record. -/
def token [Hashing] (r : TokenRecord) : Token where
  orth := .of (r.textOf .orth)
  lower := .of (r.textOf .lower)
  norm := .of (r.textOf .norm)
  baseForm := .of (r.textOf .baseForm)
  pos := .of (r.textOf .pos)
  tag := .of (r.textOf .tag)
  dep := .of (r.textOf .dep)
  entityType := .of (r.textOf .entityType)
  shape := .of (r.textOf .shape)
  opening := .of (r.textOf .opening)
  ending := .of (r.textOf .ending)
  length := (Features.of r.text).length
  flags := r.flags

variable {r : TokenRecord} {texts : List String} {word value : String} {tags : TagField → String}

@[simp] theorem text_set (field : TagField) : (r.set field value).text = r.text := rfl

@[simp] theorem flags_set (field : TagField) : (r.set field value).flags = r.flags := rfl

theorem textOf_set (field : TagField) (a : TextAttribute) :
    (r.set field value).textOf a = if a = field.sets then value else r.textOf a := by
  cases a <;> cases field <;> rfl

@[simp] theorem text_mark (mask : FlagSet) (value : Bool) : (r.mark mask value).text = r.text := rfl

@[simp] theorem flags_mark (mask : FlagSet) (value : Bool) :
    (r.mark mask value).flags = r.flags.assign mask value := rfl

theorem textOf_mark (mask : FlagSet) (value : Bool) (a : TextAttribute) :
    (r.mark mask value).textOf a = r.textOf a := by
  cases a <;> rfl

section Token

variable [Hashing]

theorem text_token (r : TokenRecord) (a : TextAttribute) : r.token.text a = .of (r.textOf a) := by
  cases a <;> simp only [token, Token.text]

theorem attr_token (r : TokenRecord) (a : Attribute) : r.token.attr a = r.attr a := by
  cases a with
  | text a => exact congrArg AttributeValue.text (r.text_token a)
  | length => rfl
  | flag f => rfl

theorem token_ofWord : (ofWord word fun _ => "").token = Token.ofWord word := by
  simp [token, ofWord, textOf, Token.ofWord, Token.ofFeatures]

theorem token_ofWord_tags :
    (ofWord word r.tags).token = (Token.ofWord word).withTagsOf r.token := by
  simp [token, ofWord, textOf, Token.ofWord, Token.ofFeatures, Token.withTagsOf]

theorem token_set (r : TokenRecord) (field : TagField) (value : String) :
    (r.set field value).token = r.token.set field (.of value) := by
  cases field <;> simp [token, textOf_set, TagField.sets, Token.set]

theorem token_mark (r : TokenRecord) (mask : FlagSet) (value : Bool) :
    (r.mark mask value).token = { r.token with flags := r.token.flags.assign mask value } := by
  simp [token, textOf_mark]

end Token

/-- Every text of the record is among given ones. -/
def Within (r : TokenRecord) (texts : List String) : Prop :=
  ∀ a, r.textOf a ∈ texts

theorem Within.mono {more : List String} (h : r.Within texts) (hsub : texts ⊆ more) :
    r.Within more :=
  fun a => hsub (h a)

theorem Within.set (h : r.Within texts) (hvalue : value ∈ texts) (field : TagField) :
    (r.set field value).Within texts := by
  intro a
  rw [textOf_set]
  split
  · exact hvalue
  · exact h a

theorem Within.mark (h : r.Within texts) (mask : FlagSet) (value : Bool) :
    (r.mark mask value).Within texts := by
  intro a
  rw [textOf_mark]
  exact h a

theorem Within.tags_mem (h : r.Within texts) (field : TagField) : r.tags field ∈ texts := by
  have hfield := h field.sets
  cases field <;> exact hfield

theorem within_ofWord (hword : (Features.of word).texts word ⊆ texts)
    (htags : ∀ field, tags field ∈ texts) : (ofWord word tags).Within texts := by
  intro a
  cases a with
  | orth | lower | norm | shape | opening | ending =>
      apply hword
      simp [ofWord, textOf, Features.texts]
  | baseForm | pos | tag | dep | entityType => simp [ofWord, textOf, htags]

end TokenRecord

/-! ## Lists of records -/

/-- The records of a document, and every text that has been entered, in order. -/
structure PlainDocument where
  records : List TokenRecord := []
  entered : List String := []

namespace PlainDocument

def push (p : PlainDocument) (word : String) : PlainDocument where
  records := p.records ++ [.ofWord word fun _ => ""]
  entered := p.entered ++ (Features.of word).texts word

def ofWords (words : List String) : PlainDocument :=
  words.foldl push {}

def textAt (p : PlainDocument) (index : Nat) : String :=
  (p.records[index]?.map (·.text)).getD ""

def spanText (p : PlainDocument) (start stop : Nat) : String :=
  joinWords ((p.records.extract start stop).map (·.text))

def resolve? [Hashing] (p : PlainDocument) (id : TextId) : Option String :=
  ("" :: p.entered).find? (TextId.of · = id)

def view [Hashing] (p : PlainDocument) : TokenView where
  size := p.records.length
  attr index a := (p.records[index]?.getD (.ofWord "" fun _ => "")).attr a

/-- Makes a change: a field or flags of one record, or one record of several. A record or span
that is not there changes nothing. -/
def edit (p : PlainDocument) : Edit → PlainDocument
  | .set index field value =>
    { records := p.records.modify index (·.set field value)
      entered := p.entered ++ [value] }
  | .mark index mask value => { p with records := p.records.modify index (·.mark mask value) }
  | .merge start stop =>
    match p.records[start]? with
    | none => p
    | some first =>
      if start < stop ∧ stop ≤ p.records.length then
        let text := p.spanText start stop
        { records := p.records.take start ++ .ofWord text first.tags :: p.records.drop stop
          entered := p.entered ++ (Features.of text).texts text }
      else p

def editAll (p : PlainDocument) (edits : List Edit) : PlainDocument :=
  edits.foldl edit p

theorem edit_merge_of_fits {p : PlainDocument} {start stop : Nat} {first : TokenRecord}
    (hfits : start < stop ∧ stop ≤ p.records.length) (hfirst : p.records[start]? = some first) :
    p.edit (.merge start stop) =
      { records := p.records.take start ++ .ofWord (p.spanText start stop) first.tags ::
          p.records.drop stop
        entered := p.entered ++
          (Features.of (p.spanText start stop)).texts (p.spanText start stop) } := by
  simp only [edit, hfirst, if_pos hfits]

theorem edit_merge_of_not_fits {p : PlainDocument} {start stop : Nat}
    (hfits : ¬(start < stop ∧ stop ≤ p.records.length)) : p.edit (.merge start stop) = p := by
  simp only [edit, if_neg hfits]
  split <;> rfl

theorem entered_subset_edit (p : PlainDocument) (e : Edit) : p.entered ⊆ (p.edit e).entered := by
  cases e with
  | set index field value => exact List.subset_append_left _ _
  | mark index mask value => exact List.Subset.refl _
  | merge start stop =>
      by_cases hfits : start < stop ∧ stop ≤ p.records.length
      · have hfirst := List.getElem?_eq_getElem (hfits.1.trans_le hfits.2)
        rw [edit_merge_of_fits hfits hfirst]
        exact List.subset_append_left _ _
      · rw [edit_merge_of_not_fits hfits]
        exact List.Subset.refl _

/-- A text that has been entered stays so. -/
theorem entered_subset_editAll (p : PlainDocument) (edits : List Edit) :
    p.entered ⊆ (p.editAll edits).entered := by
  induction edits generalizing p with
  | nil => exact List.Subset.refl _
  | cons e rest ih => exact List.Subset.trans (p.entered_subset_edit e) (ih (p.edit e))

end PlainDocument

/-- The place of a change lies in a document of a size. -/
def Edit.Fits (size : Nat) : Edit → Prop
  | .set index _ _ => index < size
  | .mark index _ _ => index < size
  | .merge start stop => start < stop ∧ stop ≤ size

instance (size : Nat) : DecidablePred (Edit.Fits size)
  | .set index _ _ => inferInstanceAs (Decidable (index < size))
  | .mark index _ _ => inferInstanceAs (Decidable (index < size))
  | .merge start stop => inferInstanceAs (Decidable (start < stop ∧ stop ≤ size))

/-! ## Documents that stand for lists of records -/

section Modify

variable {α β : Type} {l : List α} {f : β → β} {g : α → α} {h : α → β}

theorem map_modify (hcomm : ∀ a, h (g a) = f (h a)) (i : Nat) :
    (l.modify i g).map h = (l.map h).modify i f := by
  induction l generalizing i with
  | nil => simp
  | cons a l ih =>
      cases i with
      | zero => simp [hcomm]
      | succ i => simp [ih]

theorem eq_or_eq_of_mem_modify {a : α} {i : Nat} (ha : a ∈ l.modify i g) :
    a ∈ l ∨ ∃ b ∈ l, a = g b := by
  obtain ⟨j, hj⟩ := List.mem_iff_getElem?.mp ha
  rw [List.getElem?_modify] at hj
  obtain ⟨b, hb, hab⟩ := Option.map_eq_some_iff.mp hj
  have hmem : b ∈ l := List.mem_of_getElem? hb
  split at hab
  · exact Or.inr ⟨b, hmem, hab.symm⟩
  · exact Or.inl (hab ▸ hmem)

end Modify

namespace Document

variable [Hashing]

/-- The tokens are those of the records, the lexicon holds what has been entered, and that is
every text of the records. -/
structure Represents (d : Document) (p : PlainDocument) : Prop where
  tokens : d.tokens = p.records.map TokenRecord.token
  holds : d.lexicon.Holds p.entered
  within : ∀ r ∈ p.records, r.Within ("" :: p.entered)

variable {d : Document} {p : PlainDocument}

theorem merge_of_fits {start stop : Nat} {first : Token} (hfits : start < stop ∧ stop ≤ d.size)
    (hfirst : d.token? start = some first) :
    d.merge start stop =
      ({ lexicon := d.lexicon.addAll
           ((Features.of (d.spanText start stop)).texts (d.spanText start stop))
         tokens := d.tokens.take start ++
           (Token.ofWord (d.spanText start stop)).withTagsOf first :: d.tokens.drop stop },
        some start) := by
  simp only [merge, if_pos hfits, hfirst]

theorem merge_of_not_fits {start stop : Nat} (hfits : ¬(start < stop ∧ stop ≤ d.size)) :
    d.merge start stop = (d, none) := by
  rw [merge, if_neg hfits]

namespace Represents

theorem size (h : d.Represents p) : d.size = p.records.length := by
  rw [Document.size, h.tokens, List.length_map]

theorem token? (h : d.Represents p) (index : Nat) :
    d.token? index = p.records[index]?.map TokenRecord.token := by
  rw [Document.token?, h.tokens, List.getElem?_map]

theorem view (h : d.Represents p) : d.view = p.view := by
  rw [Document.view, PlainDocument.view, h.size]
  congr 1
  funext index a
  rw [h.token?]
  cases p.records[index]? with
  | none => exact (TokenRecord.ofWord "" fun _ => "").attr_token a
  | some r => exact r.attr_token a

theorem resolve? (h : d.Represents p) (id : TextId) : d.resolve? id = p.resolve? id :=
  h.holds.get?_eq id

theorem resolve?_textOf (h : d.Represents p) (hdistinct : TextId.DistinctOn p.entered)
    {r : TokenRecord} (hr : r ∈ p.records) (a : TextAttribute) :
    d.resolve? (.of (r.textOf a)) = some (r.textOf a) :=
  h.holds.get?_of_mem hdistinct (h.within r hr a)

theorem textAt (h : d.Represents p) (hdistinct : TextId.DistinctOn p.entered) (index : Nat) :
    d.textAt index = p.textAt index := by
  rw [Document.textAt, h.token?, PlainDocument.textAt]
  cases hr : p.records[index]? with
  | none => rfl
  | some r =>
      have htext := h.resolve?_textOf hdistinct (List.mem_of_getElem? hr) .orth
      exact congrArg (·.getD "") htext

theorem spanText (h : d.Represents p) (hdistinct : TextId.DistinctOn p.entered)
    (start stop : Nat) :
    d.spanText start stop = p.spanText start stop := by
  rw [Document.spanText, PlainDocument.spanText, h.size]
  congr 1
  apply List.ext_getElem
  · simp only [List.length_map, List.length_range', List.extract_eq_take_drop, List.length_take,
      List.length_drop]
    omega
  · intro i hi hi'
    have hlt : start + i < p.records.length := by
      rw [List.length_map, List.length_range'] at hi
      omega
    simp [h.textAt hdistinct, PlainDocument.textAt, hlt]

/-! ### Steps -/

theorem push (h : d.Represents p) (word : String) : (d.push word).Represents (p.push word) where
  tokens := by
    rw [Document.push, PlainDocument.push, h.tokens, List.map_append, List.map_singleton,
      TokenRecord.token_ofWord]
  holds := by
    rw [Document.push, PlainDocument.push]
    simpa only using h.holds.addAll ((Features.of word).texts word)
  within := by
    intro r hr
    rcases List.mem_append.mp hr with hold | hnew
    · exact (h.within r hold).mono (List.cons_subset_cons _ (List.subset_append_left _ _))
    · rw [List.mem_singleton.mp hnew]
      apply TokenRecord.within_ofWord
      · exact fun _ ht => List.mem_cons_of_mem _ (List.mem_append_right _ ht)
      · exact fun _ => List.mem_cons_self

/-- A change of one record that a change of its token stands for. -/
theorem modify (h : d.Represents p) {entered : List String} {f : Token → Token}
    {g : TokenRecord → TokenRecord} (hf : ∀ r : TokenRecord, (g r).token = f r.token)
    (hentered : p.entered ⊆ entered)
    (hg : ∀ r : TokenRecord, r.Within ("" :: entered) → (g r).Within ("" :: entered))
    (index : Nat) :
    d.tokens.modify index f = (p.records.modify index g).map TokenRecord.token ∧
      ∀ r ∈ p.records.modify index g, r.Within ("" :: entered) := by
  have hold : ∀ r ∈ p.records, r.Within ("" :: entered) :=
    fun r hr => (h.within r hr).mono (List.cons_subset_cons _ hentered)
  constructor
  · rw [h.tokens, map_modify hf]
  · intro r hr
    rcases eq_or_eq_of_mem_modify hr with hmem | ⟨old, hmem, rfl⟩
    · exact hold r hmem
    · exact hg old (hold old hmem)

theorem set (h : d.Represents p) (index : Nat) (field : TagField) (value : String) :
    (d.set index field value).Represents (p.edit (.set index field value)) := by
  have hvalue : value ∈ "" :: (p.entered ++ [value]) := by simp
  obtain ⟨htokens, hwithin⟩ := h.modify (f := fun t => t.set field (.of value))
    (fun r => r.token_set field value) (List.subset_append_left p.entered [value])
    (fun r hr => hr.set hvalue field) index
  exact ⟨htokens, h.holds.add, hwithin⟩

theorem mark (h : d.Represents p) (index : Nat) (mask : FlagSet) (value : Bool) :
    (d.mark index mask value).Represents (p.edit (.mark index mask value)) := by
  obtain ⟨htokens, hwithin⟩ := h.modify
    (f := fun t => { t with flags := t.flags.assign mask value })
    (fun r => r.token_mark mask value) (List.Subset.refl p.entered)
    (fun r hr => hr.mark mask value) index
  exact ⟨htokens, h.holds, hwithin⟩

theorem merge (h : d.Represents p) (hdistinct : TextId.DistinctOn p.entered) (start stop : Nat) :
    (d.merge start stop).1.Represents (p.edit (.merge start stop)) := by
  by_cases hfits : start < stop ∧ stop ≤ d.size
  · have hlt : start < p.records.length := h.size ▸ hfits.1.trans_le hfits.2
    have hrecord := List.getElem?_eq_getElem hlt
    have hfirst := h.token? start
    rw [hrecord] at hfirst
    rw [merge_of_fits hfits hfirst, PlainDocument.edit_merge_of_fits (h.size ▸ hfits) hrecord,
      h.spanText hdistinct]
    generalize p.spanText start stop = text
    have hentered := List.cons_subset_cons ""
      (List.subset_append_left p.entered ((Features.of text).texts text))
    constructor
    · rw [List.map_append, List.map_cons, List.map_take, List.map_drop, ← h.tokens,
        TokenRecord.token_ofWord_tags]
    · simpa only using h.holds.addAll ((Features.of text).texts text)
    · intro r hr
      rcases List.mem_append.mp hr with hfront | hrest
      · exact (h.within r (List.mem_of_mem_take hfront)).mono hentered
      rcases List.mem_cons.mp hrest with hmerged | hback
      · rw [hmerged]
        apply TokenRecord.within_ofWord
        · exact fun _ ht => List.mem_cons_of_mem _ (List.mem_append_right _ ht)
        · exact ((h.within _ (List.getElem_mem hlt)).mono hentered).tags_mem
      · exact (h.within r (List.mem_of_mem_drop hback)).mono hentered
  · rw [merge_of_not_fits hfits, PlainDocument.edit_merge_of_not_fits (h.size ▸ hfits)]
    exact h

theorem edit (h : d.Represents p) (hdistinct : TextId.DistinctOn p.entered) (e : Edit) :
    (d.edit e).Represents (p.edit e) := by
  cases e with
  | set index field value => exact h.set index field value
  | mark index mask value => exact h.mark index mask value
  | merge start stop => exact h.merge hdistinct start stop

theorem editAll (h : d.Represents p) {edits : List Edit}
    (hdistinct : TextId.DistinctOn (p.editAll edits).entered) :
    (d.editAll edits).Represents (p.editAll edits) := by
  induction edits generalizing d p with
  | nil => exact h
  | cons e rest ih =>
      have hentered := hdistinct.mono (p.entered_subset_editAll (e :: rest))
      exact ih (h.edit hentered e) hdistinct

end Represents

theorem represents_empty : Represents {} {} where
  tokens := rfl
  holds := Lexicon.holds_nil
  within := by simp

theorem represents_ofWords (words : List String) :
    (ofWords words).Represents (.ofWords words) := by
  suffices h : ∀ d p, Represents d p →
      (words.foldl Document.push d).Represents (words.foldl PlainDocument.push p) from
    h _ _ represents_empty
  induction words with
  | nil => exact fun _ _ h => h
  | cons word rest ih => exact fun _ _ h => ih _ _ (h.push word)

theorem resolve?_merge {id : TextId} {text : String} (htext : d.resolve? id = some text)
    (start stop : Nat) : (d.merge start stop).1.resolve? id = some text := by
  by_cases hfits : start < stop ∧ stop ≤ d.size
  · have hfirst : d.token? start = some _ :=
      List.getElem?_eq_getElem (hfits.1.trans_le hfits.2)
    rw [merge_of_fits hfits hfirst]
    generalize (Features.of (d.spanText start stop)).texts (d.spanText start stop) = texts
    exact Lexicon.get?_addAll_of_get? htext texts
  · rw [merge_of_not_fits hfits]
    exact htext

/-- What has been resolved is resolved to the same text for ever. -/
theorem resolve?_editAll {id : TextId} {text : String} (htext : d.resolve? id = some text)
    (later : List Edit) : (d.editAll later).resolve? id = some text := by
  induction later generalizing d with
  | nil => exact htext
  | cons e rest ih =>
      apply ih
      cases e with
      | set index field value => exact Lexicon.get?_add_of_get? htext
      | mark index mask value => exact htext
      | merge start stop => exact resolve?_merge htext start stop

theorem tokens_edit_of_not_fits {e : Edit} (h : ¬e.Fits d.size) :
    (d.edit e).tokens = d.tokens := by
  cases e with
  | set index field value => exact List.modify_eq_self (Nat.le_of_not_lt h)
  | mark index mask value => exact List.modify_eq_self (Nat.le_of_not_lt h)
  | merge start stop =>
      have hsame : d.merge start stop = (d, none) := merge_of_not_fits h
      rw [Document.edit, hsame]

theorem snd_merge (start stop : Nat) :
    (d.merge start stop).2 = if start < stop ∧ stop ≤ d.size then some start else none := by
  split
  · rename_i hfits
    have hfirst : d.token? start = some _ :=
      List.getElem?_eq_getElem (hfits.1.trans_le hfits.2)
    rw [merge_of_fits hfits hfirst]
  · rename_i hfits
    rw [merge_of_not_fits hfits]

/-- Made of words, or of those of a text, and changed in any way, a document reads like the list
of records that is made and changed alike, where the texts that have been entered are told apart. It
resolves every identity in its tokens, keeps every text that it has resolved, and holds each text
that has been entered once. -/
theorem reads_as_records (words : List String) (edits : List Edit)
    (hdistinct : TextId.DistinctOn ((PlainDocument.ofWords words).editAll edits).entered) :
    let d := (ofWords words).editAll edits
    let p := (PlainDocument.ofWords words).editAll edits
    d.view = p.view ∧
    (∀ index, d.textAt index = p.textAt index) ∧
    (∀ start stop, d.spanText start stop = p.spanText start stop) ∧
    (∀ id, d.resolve? id = p.resolve? id) ∧
    List.Forall₂ (fun t r => ∀ a, d.resolve? (t.text a) = some (r.textOf a)) d.tokens p.records ∧
    (∀ start stop, (d.merge start stop).2 =
      if start < stop ∧ stop ≤ d.size then some start else none) ∧
    (∀ e : Edit, ¬e.Fits d.size → (d.edit e).tokens = d.tokens) ∧
    (∀ later id text, d.resolve? id = some text →
      (d.editAll later).resolve? id = some text) ∧
    (∀ text, TextId.DistinctOn (text :: p.entered) →
      (d.lexicon.contains text = true ↔ text ∈ "" :: p.entered)) ∧
    d.lexicon.size = (p.entered.toFinset.erase "").card := by
  intro d p
  have h : d.Represents p := (represents_ofWords words).editAll hdistinct
  refine ⟨h.view, h.textAt hdistinct, h.spanText hdistinct, h.resolve?, ?_, snd_merge,
    fun e he => tokens_edit_of_not_fits he, fun later id text htext => resolve?_editAll htext later,
    fun text => h.holds.contains_iff_of_distinct, h.holds.size_of_distinct hdistinct⟩
  rw [h.tokens, List.forall₂_map_left_iff, List.forall₂_same]
  intro r hr a
  rw [r.text_token]
  exact h.resolve?_textOf hdistinct hr a

omit [Hashing] in
/-- Two tokens have been merged. The folding hash tells apart what has been entered. The text of the
second token is kept, a span beyond the last token changes nothing, and a text that has not been
entered is not found. -/
theorem reads_as_records_merged_span :
    letI := Hashing.folded
    let d := (ofWords ["a", "b"]).editAll [.merge 0 2]
    let p := (PlainDocument.ofWords ["a", "b"]).editAll [.merge 0 2]
    (TextId.DistinctOn p.entered ∧ d.resolve? (.of "b") = some "b" ∧
      ¬(Edit.merge 0 2).Fits d.size ∧ TextId.DistinctOn ("c" :: p.entered)) ∧
    d.textAt 0 = "a b" ∧ (d.edit (.merge 0 2)).tokens = d.tokens ∧
    (d.editAll [.set 7 .norm "c"]).resolve? (.of "b") = some "b" ∧
    d.lexicon.contains "c" = false := by
  let _ := Hashing.folded
  intro d p
  have hdistinct : TextId.DistinctOn p.entered := by decide +kernel
  have hresolve : d.resolve? (.of "b") = some "b" := by decide +kernel
  have hfits : ¬(Edit.merge 0 2).Fits d.size := by decide +kernel
  have hmore : TextId.DistinctOn ("c" :: p.entered) := by decide +kernel
  obtain ⟨-, htext, -, -, -, -, hsame, hkept, hcontains, -⟩ :=
    reads_as_records ["a", "b"] [.merge 0 2] hdistinct
  have hnew : "c" ∉ "" :: p.entered := by decide +kernel
  have hfirst : p.textAt 0 = "a b" := by decide +kernel
  exact ⟨⟨hdistinct, hresolve, hfits, hmore⟩, (htext 0).trans hfirst, hsame _ hfits,
    hkept _ _ _ hresolve, Bool.eq_false_iff.mpr (mt (hcontains "c" hmore).mp hnew)⟩

end Document

end SpanRules
