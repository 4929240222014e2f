import SpanRules.Proofs.Document.Records
import SpanRules.Proofs.Text.Fields

/-! # Merging in any order

Of the records of a span a merge keeps their joined text and the tags of the first. Joining is
associative and the first record of a span is that of its first part, so it does not matter in
which pieces or in which order spans are merged, and the text of the document stays as it was.
-/

namespace SpanRules

/-! ## Records of spans -/

namespace TokenRecord

/-- One record of several: it has their joined text and the tags of the first. -/
def ofSpan (span : List TokenRecord) : TokenRecord :=
  .ofWord (joinWords (span.map (·.text))) ((span.head?.map (·.tags)).getD fun _ => "")

variable {span : List TokenRecord}

theorem text_ofSpan (span : List TokenRecord) :
    (ofSpan span).text = joinWords (span.map (·.text)) := rfl

/-- A norm that was set before a word is entered is forgotten. -/
theorem ofWord_tags_ofWord (word other : String) (tags : TagField → String) :
    ofWord word (ofWord other tags).tags = ofWord word tags := by
  simp [ofWord]

theorem joinWords_map_text_ofSpan (hspan : span ≠ []) (front back : List TokenRecord) :
    joinWords ((front ++ ofSpan span :: back).map (·.text)) =
      joinWords ((front ++ span ++ back).map (·.text)) := by
  have htexts : span.map (·.text) ≠ [] := mt List.map_eq_nil_iff.mp hspan
  simp only [List.map_append, List.map_cons, text_ofSpan, joinWords_joinWords htexts]

/-- The record of a span is the same when a part of the span has become one record before. -/
theorem ofSpan_ofSpan (hspan : span ≠ []) (front back : List TokenRecord) :
    ofSpan (front ++ ofSpan span :: back) = ofSpan (front ++ span ++ back) := by
  rw [ofSpan, joinWords_map_text_ofSpan hspan, ofSpan]
  cases front with
  | nil =>
      obtain ⟨first, rest, rfl⟩ := List.exists_cons_of_ne_nil hspan
      exact ofWord_tags_ofWord _ _ first.tags
  | cons first front => rfl

end TokenRecord

/-- A list cut before an index. -/
theorem exists_append_of_le {α : Type} {l : List α} {i : Nat} (h : i ≤ l.length) :
    ∃ front back, l = front ++ back ∧ front.length = i :=
  ⟨l.take i, l.drop i, (List.take_append_drop i l).symm, List.length_take_of_le h⟩

namespace PlainDocument

variable {p : PlainDocument} {front inner span other back : List TokenRecord}
  {start s e stop : Nat}

/-- The texts that merging a span enters. -/
def textsOf (span : List TokenRecord) : List String :=
  (Features.of (joinWords (span.map (·.text)))).texts (joinWords (span.map (·.text)))

/-- A merge puts the record of a span in the place of the span. -/
theorem edit_merge_span (hrecords : p.records = front ++ span ++ back) (hspan : span ≠ [])
    (hstart : front.length = start) (hstop : start + span.length = stop) :
    p.edit (.merge start stop) =
      { records := front ++ .ofSpan span :: back, entered := p.entered ++ textsOf span } := by
  subst hstart hstop
  obtain ⟨first, rest, rfl⟩ := List.exists_cons_of_ne_nil hspan
  have hfits : front.length < front.length + (first :: rest).length ∧
      front.length + (first :: rest).length ≤ p.records.length := by
    rw [hrecords]
    simp only [List.length_append, List.length_cons]
    omega
  have hfirst : p.records[front.length]? = some first := by
    rw [hrecords]
    simp
  have htext : p.spanText front.length (front.length + (first :: rest).length) =
      joinWords ((first :: rest).map (·.text)) := by
    rw [spanText, hrecords, List.extract_eq_take_drop]
    simp
  rw [edit_merge_of_fits hfits hfirst, htext, hrecords]
  congr 1
  rw [List.append_assoc, List.take_left, ← List.length_append, ← List.append_assoc,
    List.drop_left]
  rfl

/-- A span in range, with the records in front of it and behind it. -/
theorem exists_span (hlt : start < stop) (hstop : stop ≤ p.records.length) :
    ∃ front span back, p.records = front ++ span ++ back ∧ span ≠ [] ∧ front.length = start ∧
      start + span.length = stop := by
  obtain ⟨most, back, hmost, hlength⟩ := exists_append_of_le hstop
  obtain ⟨front, span, rfl, rfl⟩ := exists_append_of_le (l := most) (i := start) (by omega)
  rw [List.length_append] at hlength
  refine ⟨front, span, back, hmost, ?_, rfl, hlength⟩
  apply List.ne_nil_of_length_pos
  omega

/-- After a part of a span has been merged, merging what the span has become gives what merging
the span at once gives. -/
theorem records_edit_merge_merge (hs : start ≤ s) (hlt : s < e) (he : e ≤ stop)
    (hstop : stop ≤ p.records.length) :
    ((p.edit (.merge s e)).edit (.merge start (stop - (e - s - 1)))).records =
      (p.edit (.merge start stop)).records := by
  have houtside : start < stop := by omega
  obtain ⟨front, outer, back, hrecords, houter, hfront, hlength⟩ := exists_span houtside hstop
  obtain ⟨most, last, rfl, hmost⟩ := exists_append_of_le (l := outer) (i := e - start) (by omega)
  obtain ⟨first, inner, rfl, hfirst⟩ := exists_append_of_le (l := most) (i := s - start) (by omega)
  simp only [List.length_append] at hmost hlength
  have hinner : inner ≠ [] := by
    apply List.ne_nil_of_length_pos
    omega
  have hpart : p.records = (front ++ first) ++ inner ++ (last ++ back) := by
    simp only [hrecords, List.append_assoc]
  have hmerged : p.edit (.merge s e) =
      { records := front ++ first ++ .ofSpan inner :: (last ++ back)
        entered := p.entered ++ textsOf inner } :=
    edit_merge_span hpart hinner (by rw [List.length_append]; omega) (by omega)
  have hafter : (p.edit (.merge s e)).records =
      front ++ (first ++ .ofSpan inner :: last) ++ back := by
    rw [hmerged]
    simp only [List.append_assoc, List.cons_append]
  rw [edit_merge_span hafter (by simp) hfront
      (by simp only [List.length_append, List.length_cons]; omega),
    edit_merge_span hrecords houter hfront (by simp only [List.length_append]; omega),
    TokenRecord.ofSpan_ofSpan hinner]

/-- Two spans that do not overlap can be merged in either order. -/
theorem edit_merge_comm {s₁ e₁ s₂ e₂ : Nat} (h₁ : s₁ < e₁) (h : e₁ ≤ s₂) (h₂ : s₂ < e₂)
    (hstop : e₂ ≤ p.records.length) :
    ∃ records texts₁ texts₂,
      (p.edit (.merge s₁ e₁)).edit (.merge (s₂ - (e₁ - s₁ - 1)) (e₂ - (e₁ - s₁ - 1))) =
        { records, entered := p.entered ++ texts₁ ++ texts₂ } ∧
      (p.edit (.merge s₂ e₂)).edit (.merge s₁ e₁) =
        { records, entered := p.entered ++ texts₂ ++ texts₁ } := by
  obtain ⟨most, right, back, hrecords, hright, hmost, hrightLength⟩ := exists_span h₂ hstop
  obtain ⟨upto, between, rfl, hupto⟩ := exists_append_of_le (l := most) (i := e₁) (by omega)
  obtain ⟨front, left, rfl, hfront⟩ := exists_append_of_le (l := upto) (i := s₁) (by omega)
  simp only [List.length_append] at hmost hupto
  have hleft : left ≠ [] := by
    apply List.ne_nil_of_length_pos
    omega
  have hfirst : p.edit (.merge s₁ e₁) =
      { records := front ++ .ofSpan left :: (between ++ right ++ back)
        entered := p.entered ++ textsOf left } :=
    edit_merge_span (by simp only [hrecords, List.append_assoc]) hleft hfront (by omega)
  have hsecond := edit_merge_span hrecords hright
    (by simp only [List.length_append]; omega) hrightLength
  have hfirstRecords : (p.edit (.merge s₁ e₁)).records =
      (front ++ .ofSpan left :: between) ++ right ++ back := by
    rw [hfirst]
    simp
  have hsecondRecords : (p.edit (.merge s₂ e₂)).records =
      front ++ left ++ (between ++ .ofSpan right :: back) := by
    rw [hsecond]
    simp
  refine ⟨front ++ .ofSpan left :: (between ++ .ofSpan right :: back), textsOf left,
    textsOf right, ?_, ?_⟩
  · rw [edit_merge_span hfirstRecords hright
      (by simp only [List.length_append, List.length_cons]; omega) (by omega), hfirst]
    simp
  · rw [edit_merge_span hsecondRecords hleft hfront (by omega), hsecond]

/-- What the texts of the records are joined to. -/
def text (p : PlainDocument) : String :=
  joinWords (p.records.map (·.text))

/-- A merge leaves the text as it was. -/
theorem text_edit_merge (p : PlainDocument) (start stop : Nat) :
    (p.edit (.merge start stop)).text = p.text := by
  by_cases hfits : start < stop ∧ stop ≤ p.records.length
  · obtain ⟨front, span, back, hrecords, hspan, hstart, hstop⟩ := exists_span hfits.1 hfits.2
    rw [edit_merge_span hrecords hspan hstart hstop, text, text, hrecords,
      TokenRecord.joinWords_map_text_ofSpan hspan]
  · rw [edit_merge_of_not_fits hfits]

end PlainDocument

/-- Merges in a row that make one token of the span from `start` to before a stop: each but the
last lies in what the span has become, and the last one merges what is left of it. -/
inductive Collapses (start : Nat) : Nat → List (Nat × Nat) → Prop
  | whole {stop : Nat} (h : start < stop) : Collapses start stop [(start, stop)]
  | part {stop s e : Nat} {rest : List (Nat × Nat)} (hs : start ≤ s) (hlt : s < e) (he : e ≤ stop)
      (hrest : Collapses start (stop - (e - s - 1)) rest) : Collapses start stop ((s, e) :: rest)

theorem Collapses.lt {start stop : Nat} {merges : List (Nat × Nat)}
    (h : Collapses start stop merges) : start < stop := by
  cases h with
  | whole h => exact h
  | part hs hlt he _ => exact hs.trans_lt (hlt.trans_le he)

namespace Document

variable [Hashing]

/-- Makes merges in order. -/
def mergeAll (d : Document) (merges : List (Nat × Nat)) : Document :=
  d.editAll (merges.map fun m => .merge m.1 m.2)

variable {d : Document} {p : PlainDocument} {start s e stop : Nat}

theorem Represents.text (h : d.Represents p) (hdistinct : TextId.DistinctOn p.entered) :
    d.text = p.text := by
  rw [Document.text, h.spanText hdistinct, h.size, PlainDocument.spanText, PlainDocument.text,
    List.extract_eq_take_drop]
  simp

/-- One token takes the place of a span that is merged. -/
theorem size_merge (hlt : start < stop) (hstop : stop ≤ d.size) :
    (d.merge start stop).1.size + (stop - start - 1) = d.size := by
  have hfirst : d.token? start = some _ := List.getElem?_eq_getElem (hlt.trans_le hstop)
  rw [merge_of_fits ⟨hlt, hstop⟩ hfirst, size, size]
  rw [size] at hstop
  simp only [List.length_append, List.length_take, List.length_cons, List.length_drop]
  omega

/-! ## Confluence -/

section Confluence

variable (hdistinct : TextId.Distinct)
include hdistinct

theorem Represents.tokens_merge_merge (h : d.Represents p) (hs : start ≤ s) (hlt : s < e)
    (he : e ≤ stop) (hstop : stop ≤ d.size) :
    ((d.merge s e).1.merge start (stop - (e - s - 1))).1.tokens =
      (d.merge start stop).1.tokens := by
  have hpieces :=
    (h.merge (hdistinct.on _) s e).merge (hdistinct.on _) start (stop - (e - s - 1))
  have hwhole := h.merge (hdistinct.on _) start stop
  rw [hpieces.tokens, hwhole.tokens,
    PlainDocument.records_edit_merge_merge hs hlt he (h.size ▸ hstop)]

/-- However a span is merged piece by piece, it ends in the same tokens. -/
theorem Represents.tokens_mergeAll (h : d.Represents p) {merges : List (Nat × Nat)}
    (hmerges : Collapses start stop merges) (hstop : stop ≤ d.size) :
    (d.mergeAll merges).tokens = (d.merge start stop).1.tokens := by
  induction hmerges generalizing d p with
  | whole _ => rfl
  | @part stop s e rest hs hlt he hrest ih =>
      have hsize := size_merge hlt (he.trans hstop)
      have hlater := ih (h.merge (hdistinct.on _) s e) (by omega)
      exact hlater.trans (h.tokens_merge_merge hdistinct hs hlt he hstop)

/-- In either order, merging two spans that do not overlap gives the same tokens and a lexicon of
the same texts. -/
theorem Represents.merge_comm (h : d.Represents p) {s₁ e₁ s₂ e₂ : Nat} (h₁ : s₁ < e₁)
    (hle : e₁ ≤ s₂) (h₂ : s₂ < e₂) (hstop : e₂ ≤ d.size) :
    let left := ((d.merge s₁ e₁).1.merge (s₂ - (e₁ - s₁ - 1)) (e₂ - (e₁ - s₁ - 1))).1
    let right := ((d.merge s₂ e₂).1.merge s₁ e₁).1
    left.tokens = right.tokens ∧ (∀ id, left.resolve? id = right.resolve? id) ∧
      left.lexicon.size = right.lexicon.size := by
  intro left right
  obtain ⟨records, texts₁, texts₂, hleft, hright⟩ :=
    PlainDocument.edit_merge_comm h₁ hle h₂ (h.size ▸ hstop)
  have hl : left.Represents _ := (h.merge (hdistinct.on _) s₁ e₁).merge (hdistinct.on _)
    (s₂ - (e₁ - s₁ - 1)) (e₂ - (e₁ - s₁ - 1))
  have hr : right.Represents _ :=
    (h.merge (hdistinct.on _) s₂ e₂).merge (hdistinct.on _) s₁ e₁
  rw [hleft] at hl
  rw [hright] at hr
  refine ⟨hl.tokens.trans hr.tokens.symm, hl.holds.alike hr.holds (hdistinct.on _) ?_⟩
  intro text
  simp only [List.mem_append, or_right_comm]

/-- After any changes of a document it does not matter how spans of it are merged. A part of a span
can be merged before the span, and more parts before these, which ends in the tokens that merging
the span at once gives; and spans that do not overlap can be merged in either order. Each time one
token takes the place of the span. -/
theorem merge_confluent (words : List String) (edits : List Edit) :
    let d := (ofWords words).editAll edits
    (∀ start s e stop, start ≤ s → s < e → e ≤ stop → stop ≤ d.size →
      (d.merge s e).2 = some s ∧
      ((d.merge s e).1.merge start (stop - (e - s - 1))).2 = some start ∧
      ((d.merge s e).1.merge start (stop - (e - s - 1))).1.tokens =
        (d.merge start stop).1.tokens) ∧
    (∀ start stop merges, Collapses start stop merges → stop ≤ d.size →
      (d.mergeAll merges).tokens = (d.merge start stop).1.tokens ∧
      (d.mergeAll merges).size + (stop - start - 1) = d.size) ∧
    ∀ s₁ e₁ s₂ e₂, s₁ < e₁ → e₁ ≤ s₂ → s₂ < e₂ → e₂ ≤ d.size →
      let left := ((d.merge s₁ e₁).1.merge (s₂ - (e₁ - s₁ - 1)) (e₂ - (e₁ - s₁ - 1))).1
      let right := ((d.merge s₂ e₂).1.merge s₁ e₁).1
      left.tokens = right.tokens ∧ (∀ id, left.resolve? id = right.resolve? id) ∧
        left.lexicon.size = right.lexicon.size ∧
        left.size + (e₁ - s₁ - 1) + (e₂ - s₂ - 1) = d.size := by
  intro d
  have h : d.Represents _ := (represents_ofWords words).editAll (hdistinct.on _)
  refine ⟨?_, ?_, ?_⟩
  · intro start s e stop hs hlt he hstop
    have hsize := size_merge hlt (he.trans hstop)
    refine ⟨?_, ?_, h.tokens_merge_merge hdistinct hs hlt he hstop⟩
    · rw [snd_merge, if_pos ⟨hlt, he.trans hstop⟩]
    · rw [snd_merge, if_pos (by omega)]
  · intro start stop merges hmerges hstop
    have htokens := h.tokens_mergeAll hdistinct hmerges hstop
    refine ⟨htokens, ?_⟩
    rw [size, htokens]
    exact size_merge hmerges.lt hstop
  · intro s₁ e₁ s₂ e₂ h₁ hle h₂ hstop left right
    obtain ⟨htokens, hresolve, hlexicon⟩ := h.merge_comm hdistinct h₁ hle h₂ hstop
    refine ⟨htokens, hresolve, hlexicon, ?_⟩
    have hfirst := size_merge h₁ (hle.trans (h₂.le.trans hstop))
    have hsecond : left.size + (e₂ - (e₁ - s₁ - 1) - (s₂ - (e₁ - s₁ - 1)) - 1) =
        (d.merge s₁ e₁).1.size := size_merge (by omega) (by omega)
    omega

end Confluence

omit [Hashing] in
/-- The second word is empty, the first token has a tag and the third a norm of its own. -/
theorem merge_confluent_empty_word :
    letI := Hashing.numbered
    let d := (ofWords ["a", "", "b", "c"]).editAll [.set 0 .pos "X", .set 2 .norm "n"]
    (TextId.Distinct ∧ Collapses 0 3 [(1, 3), (0, 2)] ∧ 4 ≤ d.size) ∧
    ((d.merge 1 3).1.merge 0 2).1.tokens = (d.merge 0 3).1.tokens ∧
    (d.mergeAll [(1, 3), (0, 2)]).tokens = (d.merge 0 3).1.tokens ∧
    (d.mergeAll [(1, 3), (0, 2)]).size = 2 ∧
    ((d.merge 0 2).1.merge 1 3).1.tokens = ((d.merge 2 4).1.merge 0 2).1.tokens := by
  let _ := Hashing.numbered
  intro d
  have hsize : 4 ≤ d.size := by decide +kernel
  have hmerges : Collapses 0 3 [(1, 3), (0, 2)] :=
    .part (by decide) (by decide) (by decide) (.whole (by decide))
  obtain ⟨hnested, hpieces, horder⟩ :=
    merge_confluent Hashing.distinct_numbered ["a", "", "b", "c"]
      [.set 0 .pos "X", .set 2 .norm "n"]
  obtain ⟨htokens, hfewer⟩ := hpieces 0 3 _ hmerges (Nat.le_of_lt hsize)
  have htwo : (d.mergeAll [(1, 3), (0, 2)]).size = 2 :=
    Nat.add_right_cancel (hfewer.trans (by decide +kernel : d.size = 2 + 2))
  exact ⟨⟨Hashing.distinct_numbered, hmerges, hsize⟩,
    (hnested 0 1 3 3 (by decide) (by decide) (by decide) (Nat.le_of_lt hsize)).2.2,
    htokens, htwo,
    (horder 0 2 2 4 (by decide) (by decide) (by decide) hsize).1⟩

/-! ## The text of a document -/

omit [Hashing] in
theorem map_text_records_ofWords (words : List String) :
    (PlainDocument.ofWords words).records.map (·.text) = words := by
  induction words using List.reverseRecOn with
  | nil => rfl
  | append_singleton words word ih =>
      rw [PlainDocument.ofWords, List.foldl_append, ← PlainDocument.ofWords]
      simp [PlainDocument.push, TokenRecord.ofWord, ih]

/-- The texts that the tokens of words refer to. -/
def textsOf (words : List String) : List String :=
  words.flatMap fun word => (Features.of word).texts word

omit [Hashing] in
theorem entered_ofWords (words : List String) :
    (PlainDocument.ofWords words).entered = textsOf words := by
  induction words using List.reverseRecOn with
  | nil => rfl
  | append_singleton words word ih =>
      rw [PlainDocument.ofWords, List.foldl_append, ← PlainDocument.ofWords]
      simp [PlainDocument.push, ih, textsOf]

theorem size_ofWords (words : List String) : (ofWords words).size = words.length := by
  rw [(represents_ofWords words).size, ← List.length_map, map_text_records_ofWords]

section Words

variable {words : List String} (hdistinct : TextId.DistinctOn (textsOf words))
include hdistinct

/-- The text of the token of a word is the word. -/
theorem textAt_ofWords (index : Nat) : (ofWords words).textAt index = words[index]?.getD "" := by
  rw [← entered_ofWords] at hdistinct
  rw [(represents_ofWords words).textAt hdistinct, PlainDocument.textAt, ← List.getElem?_map,
    map_text_records_ofWords]

/-- The text of a span is its words, joined by spaces. -/
theorem spanText_ofWords (start stop : Nat) :
    (ofWords words).spanText start stop = joinWords (words.extract start stop) := by
  rw [← entered_ofWords] at hdistinct
  rw [(represents_ofWords words).spanText hdistinct, PlainDocument.spanText,
    List.extract_eq_take_drop, List.map_take, List.map_drop, map_text_records_ofWords,
    List.extract_eq_take_drop]

theorem text_ofWords : (ofWords words).text = joinWords words := by
  rw [text, spanText_ofWords hdistinct, size_ofWords, List.extract_eq_take_drop, List.drop_zero,
    Nat.sub_zero, List.take_length]

end Words

section Texts

variable (hdistinct : TextId.Distinct)
include hdistinct

theorem Represents.text_mergeAll (h : d.Represents p) (merges : List (Nat × Nat)) :
    (d.mergeAll merges).text = d.text := by
  induction merges generalizing d p with
  | nil => rfl
  | cons m rest ih =>
      have hmerged := h.merge (hdistinct.on _) m.1 m.2
      have hfirst : (d.merge m.1 m.2).1.text = d.text := by
        rw [hmerged.text (hdistinct.on _), PlainDocument.text_edit_merge, h.text (hdistinct.on _)]
      exact (ih hmerged).trans hfirst

theorem text_mergeAll_ofWords (words : List String) (merges : List (Nat × Nat)) :
    ((ofWords words).mergeAll merges).text = joinWords words := by
  rw [(represents_ofWords words).text_mergeAll hdistinct, text_ofWords (hdistinct.on _)]

/-- Merging keeps the text of a document: its words joined by spaces. Each merge that takes place
leaves so many tokens fewer as its span had beyond the first. A document that was cut at white
space, where no token is empty or holds white space, is made again by cutting its text. -/
theorem merging_keeps_text (words : List String) (text : String) (merges : List (Nat × Nat)) :
    let d := (ofWords words).mergeAll merges
    let u := (ofText text).mergeAll merges
    d.text = joinWords words ∧
    (∀ start stop, (d.merge start stop).1.size +
      (if (d.merge start stop).2.isSome then stop - start - 1 else 0) = d.size) ∧
    ofText u.text = ofText text ∧
    ∀ index < (ofText text).size, IsWord ((ofText text).textAt index) := by
  intro d u
  refine ⟨text_mergeAll_ofWords hdistinct words merges, ?_, ?_, ?_⟩
  · intro start stop
    rw [snd_merge]
    by_cases hfits : start < stop ∧ stop ≤ d.size
    · rw [if_pos hfits]
      exact size_merge hfits.1 hfits.2
    · rw [if_neg hfits, merge_of_not_fits hfits]
      rfl
  · have htext : u.text = joinWords (wordsOf text) :=
      text_mergeAll_ofWords hdistinct (wordsOf text) merges
    rw [htext, ofText, wordsOf_joinWords_of_isWord fun _ => isWord_of_mem_wordsOf, ofText]
  · intro index hindex
    rw [ofText, size_ofWords] at hindex
    rw [ofText, textAt_ofWords (hdistinct.on _), List.getElem?_eq_getElem hindex]
    exact isWord_of_mem_wordsOf (List.getElem_mem hindex)

end Texts

omit [Hashing] in
/-- A text with a tab and spaces at its ends is cut into three words, and two of them are merged
twice. -/
theorem merging_keeps_text_blank_ends :
    letI := Hashing.numbered
    let t := " New\tYork  City "
    TextId.Distinct ∧ 1 < (ofText t).size ∧
    ((ofText t).mergeAll [(0, 2), (0, 2), (3, 1)]).size = 1 ∧
    ofText ((ofText t).mergeAll [(0, 2), (0, 2), (3, 1)]).text = ofText t ∧
    IsWord ((ofText t).textAt 1) := by
  let _ := Hashing.numbered
  intro t
  have hindex : 1 < (ofText t).size := by decide +kernel
  obtain ⟨-, -, hagain, hwords⟩ :=
    merging_keeps_text Hashing.distinct_numbered [] t [(0, 2), (0, 2), (3, 1)]
  exact ⟨Hashing.distinct_numbered, hindex, by decide +kernel, hagain, hwords 1 hindex⟩

end Document

end SpanRules
