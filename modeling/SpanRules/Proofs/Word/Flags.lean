import Mathlib.Data.List.Chain
import SpanRules.Proofs.Document.Records
import SpanRules.Proofs.Text.Fields
import SpanRules.Proofs.Unicode.Case
import SpanRules.Proofs.Word.Resemblance

/-! # What the flags of a word tell about each other

A title has a character in upper case at the start of each run of characters that have a case, and
nowhere else. Digits are numbers and have no case. A space is no character of any class that the
other flags ask for, so a word with a space, such as the text of a merged span, has none of them.
-/

namespace SpanRules

variable {word : List Char} {c : Char}

/-! ## Titles -/

/-- The character is in upper or in lower case. -/
def hasCase (c : Char) : Bool :=
  Unicode.isUppercase c || Unicode.isLowercase c

/-- The last character is in upper or in lower case. -/
def endsInCase (text : List Char) : Bool :=
  text.getLast?.any hasCase

/-- Some character has a case. None in upper case comes right after one that has a case, and every
one in lower case does. -/
structure TitleCased (word : List Char) : Prop where
  cased : ∃ c ∈ word, hasCase c = true
  opens : ∀ front c back, word = front ++ c :: back → Unicode.isUppercase c = true →
    endsInCase front = false
  continues : ∀ front c back, word = front ++ c :: back → Unicode.isLowercase c = true →
    endsInCase front = true

/-- A place in a list is its head or a place in its tail. -/
theorem forall_split_cons {α : Type} {a : α} {l : List α} {P : List α → α → Prop} :
    (∀ front b back, a :: l = front ++ b :: back → P front b) ↔
      P [] a ∧ ∀ front b back, l = front ++ b :: back → P (a :: front) b := by
  constructor
  · intro h
    refine ⟨h [] a l rfl, ?_⟩
    intro front b back hl
    exact h (a :: front) b back (congrArg (a :: ·) hl)
  · rintro ⟨hhead, htail⟩ front b back hl
    cases front with
    | nil =>
        obtain ⟨rfl, rfl⟩ := List.cons.inj hl
        exact hhead
    | cons d front =>
        obtain ⟨rfl, rfl⟩ := List.cons.inj hl
        exact htail front b back rfl

/-- What one character of a title asks for, and what it leaves for the next one. -/
theorem titleAfter_cons (afterCased seen : Bool) (c : Char) (cs : List Char) :
    titleAfter afterCased seen (c :: cs) = true ↔
      ((Unicode.isUppercase c = true → afterCased = false) ∧
        (Unicode.isLowercase c = true → afterCased = true)) ∧
      titleAfter (hasCase c) (seen || hasCase c) cs = true := by
  rw [titleAfter, hasCase]
  by_cases hupper : Unicode.isUppercase c = true
  · have hlower := Unicode.isLowercase_eq_false_of_isUppercase hupper
    simp [hupper, hlower]
  · by_cases hlower : Unicode.isLowercase c = true
    · simp [hupper, hlower]
    · simp [hupper, hlower]

/-- After a part of a word has been read, the rest is accepted if all of its characters stand where
they may. -/
theorem titleAfter_iff (read rest : List Char) :
    titleAfter (endsInCase read) (read.any hasCase) rest = true ↔
      (∃ c ∈ read ++ rest, hasCase c = true) ∧
      ∀ front c back, rest = front ++ c :: back →
        (Unicode.isUppercase c = true → endsInCase (read ++ front) = false) ∧
        (Unicode.isLowercase c = true → endsInCase (read ++ front) = true) := by
  induction rest generalizing read with
  | nil => simp [titleAfter]
  | cons c cs ih =>
      have hends : hasCase c = endsInCase (read ++ [c]) := by simp [endsInCase]
      have hseen : (read.any hasCase || hasCase c) = (read ++ [c]).any hasCase := by simp
      rw [titleAfter_cons, hseen, hends, ih (read ++ [c]), forall_split_cons]
      simp only [List.append_assoc, List.singleton_append, List.append_nil]
      exact and_left_comm

theorem isTitle_iff : isTitle word = true ↔ TitleCased word := by
  have h := titleAfter_iff [] word
  simp only [List.nil_append] at h
  rw [isTitle]
  refine h.trans ⟨?_, ?_⟩
  · rintro ⟨hcased, hplaces⟩
    exact ⟨hcased, fun front c back hword => (hplaces front c back hword).1,
      fun front c back hword => (hplaces front c back hword).2⟩
  · intro htitle
    refine ⟨htitle.cased, ?_⟩
    intro front c back hword
    exact ⟨htitle.opens front c back hword, htitle.continues front c back hword⟩

/-- A title that has only started has a character in upper case to come: one in lower case would
end it. -/
theorem any_isUppercase_of_titleAfter (h : titleAfter false false word = true) :
    word.any Unicode.isUppercase = true := by
  induction word with
  | nil => cases h
  | cons c cs ih =>
      rw [List.any_cons, Bool.or_eq_true]
      by_cases hupper : Unicode.isUppercase c = true
      · exact Or.inl hupper
      · obtain ⟨⟨-, hlower⟩, hrest⟩ := (titleAfter_cons false false c cs).mp h
        have hcase : hasCase c = false := by
          rw [hasCase, Bool.eq_false_iff.mpr hupper, Bool.false_or, Bool.eq_false_iff]
          exact fun hc => Bool.noConfusion (hlower hc)
        rw [hcase, Bool.or_false] at hrest
        exact Or.inr (ih hrest)

/-- No two characters in a row have a case. -/
def CaseApart (word : List Char) : Prop :=
  word.IsChain fun b c => ¬(hasCase b = true ∧ hasCase c = true)

/-- Without lower case, titles are the words in which cased characters stand apart. -/
theorem titleCased_iff_of_upper (hupper : word.any Unicode.isUppercase = true)
    (hlower : word.any Unicode.isLowercase = false) : TitleCased word ↔ CaseApart word := by
  have hnone : ∀ c ∈ word, Unicode.isLowercase c = false := by
    intro c hc
    exact Bool.eq_false_iff.mpr (List.any_eq_false.mp hlower c hc)
  have hcase : ∀ c ∈ word, hasCase c = Unicode.isUppercase c := by
    intro c hc
    rw [hasCase, hnone c hc, Bool.or_false]
  rw [CaseApart, List.isChain_iff_forall_rel_of_append_cons_cons]
  constructor
  · intro htitle b c front back hword
    rintro ⟨hb, hc⟩
    have hmem : c ∈ word := by simp [hword]
    have hends := htitle.opens (front ++ [b]) c back (by simp [hword]) (hcase c hmem ▸ hc)
    simp [endsInCase, hb] at hends
  · intro happart
    obtain ⟨c, hc, hcupper⟩ := List.any_eq_true.mp hupper
    refine ⟨⟨c, hc, (hcase c hc).trans hcupper⟩, ?_, ?_⟩
    · intro front c back hword hc
      have hmem : c ∈ word := by simp [hword]
      rcases List.eq_nil_or_concat front with rfl | ⟨first, b, rfl⟩
      · rfl
      · have hwhole : word = first ++ b :: c :: back := by simp [hword]
        have hb : ¬hasCase b = true := fun hb => happart hwhole ⟨hb, (hcase c hmem).trans hc⟩
        simpa [endsInCase] using hb
    · intro front c back hword hc
      have hmem : c ∈ word := by simp [hword]
      rw [hnone c hmem] at hc
      cases hc

/-! ## Digits -/

section Digits

variable (hdigits : ∀ c ∈ word, c.isDigit = true)
include hdigits

theorem hasCase_eq_false_of_isDigit : ∀ c ∈ word, hasCase c = false := by
  intro c hc
  have hupper : Unicode.isUppercase c = false :=
    Unicode.covers_eq_false_of_isDigit (hdigits c hc) (by decide +kernel)
  have hlower : Unicode.isLowercase c = false :=
    Unicode.covers_eq_false_of_isDigit (hdigits c hc) (by decide +kernel)
  rw [hasCase, hupper, hlower, Bool.or_false]

/-- Digits alone are a number of one group. -/
theorem isNumber_of_isDigit (hne : word ≠ []) : Resemblance.IsNumber word := by
  have hrun : Resemblance.Run (·.isDigit = true) word := ⟨hne, hdigits⟩
  have hpoints : ∀ d ∈ ['.', ','], ¬d.isDigit = true :=
    List.forall_mem_cons.mpr ⟨by decide, List.forall_mem_singleton.mpr (by decide)⟩
  have hgroup : fields (· ∈ ['.', ',']) word = [word] :=
    fields_eq_singleton (hrun.not_separates hpoints)
  have hnumber : ∀ c ∈ word, Unicode.isDecimalDigit c = true := by
    intro c hc
    obtain ⟨hfirst, hlast⟩ := Unicode.toNat_of_isDigit (hdigits c hc)
    exact Unicode.Ranges.covers_cons_of_mem hfirst hlast
  refine ⟨word, Or.inl rfl, Or.inl ?_⟩
  rw [hgroup, List.forall_mem_singleton]
  exact ⟨hne, hnumber⟩

end Digits

/-! ## Flags of a word -/

section Flags

variable {word : String} {f : Flag}

theorem has_wordFlags_of_ne (h : word ≠ "") :
    (wordFlags word).has f = wordHas word.toList (Unicode.lower word) f := by
  rw [wordFlags, if_neg h, FlagSet.has_ofTest]

theorem ne_empty_of_has (h : (wordFlags word).has f = true) : word ≠ "" := by
  rintro rfl
  cases h

theorem wordHas_of_has (h : (wordFlags word).has f = true) :
    wordHas word.toList (Unicode.lower word) f = true := by
  rwa [has_wordFlags_of_ne (ne_empty_of_has h)] at h

theorem has_title_iff : (wordFlags word).has .title = true ↔ TitleCased word.toList := by
  rw [← isTitle_iff]
  constructor
  · exact wordHas_of_has
  · intro h
    rw [has_wordFlags_of_ne]
    · exact h
    · rintro rfl
      cases h

/-- A title has a character in upper case, and a word in lower case has none. -/
theorem not_title_and_lower :
    ¬((wordFlags word).has .title = true ∧ (wordFlags word).has .lower = true) := by
  rintro ⟨htitle, hlower⟩
  have hupper : word.toList.any Unicode.isUppercase = true :=
    any_isUppercase_of_titleAfter (wordHas_of_has htitle)
  have hnone := (Bool.and_eq_true_iff.mp (wordHas_of_has hlower)).2
  rw [hupper] at hnone
  cases hnone

theorem title_iff_of_upper (h : (wordFlags word).has .upper = true) :
    (wordFlags word).has .title = true ↔ CaseApart word.toList := by
  obtain ⟨hupper, hlower⟩ := Bool.and_eq_true_iff.mp (wordHas_of_has h)
  rw [has_title_iff]
  exact titleCased_iff_of_upper hupper (Bool.not_eq_true' _ |>.mp hlower)

/-- The flags of case ask for a character that has one. -/
theorem exists_hasCase_of_has (hf : f ∈ [Flag.lower, .upper, .title])
    (h : (wordFlags word).has f = true) : ∃ c ∈ word.toList, hasCase c = true := by
  have hasks := wordHas_of_has h
  simp only [List.mem_cons, List.not_mem_nil, or_false] at hf
  rcases hf with rfl | rfl | rfl
  · obtain ⟨c, hc, hlower⟩ := List.any_eq_true.mp (Bool.and_eq_true_iff.mp hasks).1
    exact ⟨c, hc, Bool.or_eq_true_iff.mpr (Or.inr hlower)⟩
  · obtain ⟨c, hc, hupper⟩ := List.any_eq_true.mp (Bool.and_eq_true_iff.mp hasks).1
    exact ⟨c, hc, Bool.or_eq_true_iff.mpr (Or.inl hupper)⟩
  · exact (isTitle_iff.mp hasks).cased

/-- A word of digits is a number in ASCII, and it has neither letters nor case. -/
theorem flags_of_digit (h : (wordFlags word).has .digit = true) :
    (wordFlags word).has .ascii = true ∧ (wordFlags word).has .likeNumber = true ∧
      ∀ f ∈ [Flag.alpha, .lower, .upper, .title], (wordFlags word).has f = false := by
  have hne := ne_empty_of_has h
  have hlist : word.toList ≠ [] := mt String.toList_eq_nil_iff.mp hne
  have hdigits : ∀ c ∈ word.toList, c.isDigit = true := List.all_eq_true.mp (wordHas_of_has h)
  have hascii : wordHas word.toList (Unicode.lower word) .ascii = true := by
    apply List.all_eq_true.mpr
    intro c hc
    have hle := (Unicode.toNat_of_isDigit (hdigits c hc)).2
    exact decide_eq_true (Nat.lt_of_le_of_lt hle (by decide))
  have hnumber : wordHas word.toList (Unicode.lower word) .likeNumber = true := by
    apply Bool.or_eq_true_iff.mpr
    left
    rw [Expression.accepts_iff, Resemblance.mem_language_number]
    exact isNumber_of_isDigit hdigits hlist
  have hletters : wordHas word.toList (Unicode.lower word) .alpha = false := by
    obtain ⟨c, hc⟩ := List.exists_mem_of_ne_nil _ hlist
    apply List.all_eq_false.mpr
    refine ⟨c, hc, Bool.eq_false_iff.mp ?_⟩
    exact Unicode.covers_eq_false_of_isDigit (hdigits c hc) (by decide +kernel)
  have hcase : ∀ f ∈ [Flag.lower, .upper, .title], (wordFlags word).has f = false := by
    intro f hf
    rw [Bool.eq_false_iff]
    intro hhas
    obtain ⟨c, hc, hcased⟩ := exists_hasCase_of_has hf hhas
    rw [hasCase_eq_false_of_isDigit hdigits c hc] at hcased
    cases hcased
  refine ⟨?_, ?_, List.forall_mem_cons.mpr ⟨?_, hcase⟩⟩
  · rw [has_wordFlags_of_ne hne, hascii]
  · rw [has_wordFlags_of_ne hne, hnumber]
  · rw [has_wordFlags_of_ne hne, hletters]

end Flags

/-! ## Spaces -/

section Spaces

variable {word : String} {f : Flag} (hspace : ' ' ∈ word.toList)
include hspace

theorem all_eq_false_of_space {test : Char → Bool} (htest : test ' ' = false) :
    word.toList.all test = false := by
  rw [List.all_eq_false]
  exact ⟨' ', hspace, Bool.eq_false_iff.mp htest⟩

theorem accepts_eq_false_of_space {e : Expression} (he : e.avoids ' ' = true) :
    e.accepts word.toList = false := by
  rw [Bool.eq_false_iff]
  intro haccepts
  exact Expression.not_mem_of_avoids he (Expression.accepts_iff.mp haccepts) hspace

theorem contains_lower_eq_false_of_space {words : List String}
    (hwords : ∀ w ∈ words, ' ' ∉ w.toList) : words.contains (Unicode.lower word) = false := by
  rw [Bool.eq_false_iff]
  intro hcontains
  exact hwords _ (List.contains_iff_mem.mp hcontains) (Unicode.space_mem_lower hspace)

/-- A space is no letter, digit or punctuation, and it stands in no word of a list and in nothing
that resembles a number or an address. -/
theorem has_eq_false_of_space
    (hf : f ∈ [Flag.alpha, .digit, .punct, .stop, .likeNumber, .likeUrl, .likeEmail]) :
    (wordFlags word).has f = false := by
  have hne : word ≠ "" := by
    rintro rfl
    cases hspace
  have hnumber : wordHas word.toList (Unicode.lower word) .likeNumber = false := by
    rw [wordHas, accepts_eq_false_of_space hspace (by decide +kernel),
      contains_lower_eq_false_of_space hspace (by decide +kernel)]
    rfl
  rw [has_wordFlags_of_ne hne]
  simp only [List.mem_cons, List.not_mem_nil, or_false] at hf
  rcases hf with rfl | rfl | rfl | rfl | rfl | rfl | rfl
  · exact all_eq_false_of_space hspace (by decide +kernel)
  · exact all_eq_false_of_space hspace (by decide +kernel)
  · exact all_eq_false_of_space hspace (by decide +kernel)
  · exact contains_lower_eq_false_of_space hspace (by decide +kernel)
  · exact hnumber
  · exact accepts_eq_false_of_space hspace (by decide +kernel)
  · exact accepts_eq_false_of_space hspace (by decide +kernel)

end Spaces

/-- The text of two tokens or more has a space between their texts. -/
theorem space_mem_spanText (d : Document) {start stop : Nat} (hlt : start + 2 ≤ stop)
    (hstop : stop ≤ d.size) : ' ' ∈ (d.spanText start stop).toList := by
  have hlength : min stop d.size - start = 1 + (stop - start - 1) := by omega
  have hmore : List.range' (start + 1) (stop - start - 1) ≠ [] := by
    rw [Ne, List.range'_eq_nil_iff]
    omega
  rw [Document.spanText, hlength, ← List.range'_append_1, List.map_append, joinWords_append]
  · simp
  · simp
  · exact mt List.map_eq_nil_iff.mp hmore

/-- The token of a merged span has the flags of the text of the span. -/
theorem flags_merge [Hashing] (d : Document) {start stop : Nat} (hlt : start < stop)
    (hstop : stop ≤ d.size) :
    (d.merge start stop).2 = some start ∧
      ∃ t, (d.merge start stop).1.token? start = some t ∧
        t.flags = wordFlags (d.spanText start stop) := by
  have hstart : start < d.tokens.length := Nat.lt_of_lt_of_le hlt hstop
  have hlength : (d.tokens.take start).length = start := List.length_take_of_le hstart.le
  have hmerge := Document.merge_of_fits ⟨hlt, hstop⟩ (List.getElem?_eq_getElem hstart)
  refine ⟨congrArg Prod.snd hmerge,
    (Token.ofWord (d.spanText start stop)).withTagsOf d.tokens[start], ?_, rfl⟩
  rw [hmerge, Document.token?, List.getElem?_append_right hlength.le, hlength, Nat.sub_self]
  rfl

/-- The flags of a word agree with each other. Titles are the words in which upper case and only
upper case opens a run of cased characters, so none is in lower case, and one in upper case has no
two cased characters in a row. Digits are numbers in ASCII without letters and without case. The
empty word has no flag, and a word with a space, such as the text of a merged span, has only flags
that ask for ASCII, for white space or for case. -/
theorem wordFlags_consistent [Hashing] :
    (∀ word : String,
      ((wordFlags word).has .title = true ↔ TitleCased word.toList) ∧
      ¬((wordFlags word).has .title = true ∧ (wordFlags word).has .lower = true) ∧
      ((wordFlags word).has .upper = true →
        ((wordFlags word).has .title = true ↔ CaseApart word.toList)) ∧
      ((wordFlags word).has .digit = true →
        (wordFlags word).has .ascii = true ∧ (wordFlags word).has .likeNumber = true ∧
        ∀ f ∈ [Flag.alpha, .lower, .upper, .title], (wordFlags word).has f = false) ∧
      (' ' ∈ word.toList →
        ∀ f ∈ [Flag.alpha, .digit, .punct, .stop, .likeNumber, .likeUrl, .likeEmail],
          (wordFlags word).has f = false)) ∧
    (∀ f, (wordFlags "").has f = false) ∧
    ∀ (d : Document) (start stop : Nat), start + 2 ≤ stop → stop ≤ d.size →
      (d.merge start stop).2 = some start ∧
      ∃ t, (d.merge start stop).1.token? start = some t ∧
        ∀ f ∈ [Flag.alpha, .digit, .punct, .stop, .likeNumber, .likeUrl, .likeEmail],
          t.flags.has f = false := by
  refine ⟨?_, FlagSet.has_empty, ?_⟩
  · intro word
    exact ⟨has_title_iff, not_title_and_lower, title_iff_of_upper, flags_of_digit,
      fun hspace f hf => has_eq_false_of_space hspace hf⟩
  · intro d start stop hlt hstop
    obtain ⟨hindex, t, ht, hflags⟩ := flags_merge d (by omega : start < stop) hstop
    refine ⟨hindex, t, ht, ?_⟩
    intro f hf
    rw [hflags]
    exact has_eq_false_of_space (space_mem_spanText d hlt hstop) hf

/-- Cased characters that stand apart, a number, and the span of a number and a stop word. -/
theorem wordFlags_consistent_merged_number :
    letI := Hashing.folded
    let d := Document.ofWords ["42", "of", "A-B"]
    ((wordFlags "A-B").has .upper = true ∧
      ((wordFlags "A-B").has .title = true ↔ CaseApart "A-B".toList)) ∧
    ((wordFlags "42").has .digit = true ∧ (wordFlags "42").has .likeNumber = true) ∧
    (' ' ∈ "42 of".toList ∧ (wordFlags "42 of").has .stop = false) ∧
    0 + 2 ≤ 2 ∧ 2 ≤ d.size ∧ (d.merge 0 2).2 = some 0 ∧
      ∃ t, (d.merge 0 2).1.token? 0 = some t ∧ t.flags.has .digit = false := by
  let _ := Hashing.folded
  intro d
  have hupper : (wordFlags "A-B").has .upper = true := by decide +kernel
  have hdigit : (wordFlags "42").has .digit = true := by decide +kernel
  have hspace : ' ' ∈ "42 of".toList := by decide +kernel
  have hsize : 2 ≤ d.size := by decide +kernel
  obtain ⟨hword, -, hmerge⟩ := wordFlags_consistent
  obtain ⟨-, -, htitle, -⟩ := hword "A-B"
  obtain ⟨-, -, -, hnumber, -⟩ := hword "42"
  obtain ⟨-, -, -, -, hspaced⟩ := hword "42 of"
  obtain ⟨hindex, t, ht, hflags⟩ := hmerge d 0 2 (Nat.le_refl 2) hsize
  exact ⟨⟨hupper, htitle hupper⟩, ⟨hdigit, (hnumber hdigit).2.1⟩,
    ⟨hspace, hspaced hspace .stop (by decide)⟩, Nat.le_refl 2, hsize, hindex, t, ht,
    hflags .digit (by decide)⟩

end SpanRules
