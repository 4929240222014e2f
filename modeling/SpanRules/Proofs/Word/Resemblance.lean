import SpanRules.Proofs.Text.Expression
import SpanRules.Word.Features

/-! # What words that resemble numbers and addresses look like

A number is made of groups of digits, a mail address of a mailbox and the labels of a domain, and an
address of a scheme, of `www` or of the labels of a host. The expressions accept these words and no
others, the empty word included.
-/

namespace SpanRules.Resemblance

open Expression

/-! ## Grammars -/

/-- At least one character, and each passes the test. -/
def Run (test : Char → Prop) (text : List Char) : Prop :=
  text ≠ [] ∧ ∀ c ∈ text, test c

/-- Groups of digits between points and commas, or two groups around a slash. -/
def Unsigned (text : List Char) : Prop :=
  (∀ group ∈ fields (· ∈ ['.', ',']) text, Run (Unicode.isDecimalDigit · = true) group) ∨
    ∃ top bottom, text = top ++ '/' :: bottom ∧
      Run (Unicode.isDecimalDigit · = true) top ∧ Run (Unicode.isDecimalDigit · = true) bottom

/-- At most one sign in front of digits. -/
def IsNumber (text : List Char) : Prop :=
  ∃ rest, (text = rest ∨ text = '+' :: rest ∨ text = '-' :: rest) ∧ Unsigned rest

/-- A mailbox, one `@` and a domain of at least two labels. -/
def IsMail (text : List Char) : Prop :=
  ∃ mailbox domain, text = mailbox ++ '@' :: domain ∧ '@' ∉ mailbox ∧ '@' ∉ domain ∧
    Run (fun c => Unicode.isWordCharacter c = true ∨ c ∈ ['.', '+', '-']) mailbox ∧
    2 ≤ (fields (· = '.') domain).length ∧
    ∀ label ∈ fields (· = '.') domain,
      Run (fun c => Unicode.isWordCharacter c = true ∨ c = '-') label

/-- When case is ignored, a letter in lower case is also read from its capital, and two letters from
one more character each. -/
def ReadsAs (c letter : Char) : Prop :=
  c = letter ∨ c = letter.toUpper ∨ letter = 's' ∧ c = 'ſ' ∨ letter = 'k' ∧ c = '\u212a'

/-- The text is another one in lower case, when case is ignored. -/
def Spells (text : List Char) (lower : String) : Prop :=
  List.Forall₂ ReadsAs text lower.toList

/-- No white space. -/
def Visible (text : List Char) : Prop :=
  ∀ c ∈ text, Unicode.isWhiteSpace c = false

/-- A letter, a digit or a hyphen. -/
def IsHostCharacter (c : Char) : Prop :=
  (∃ letter : Char, letter.isLower = true ∧ ReadsAs c letter) ∨ c.isDigit = true ∨ c = '-'

/-- At least two labels of which the last is a known ending. -/
def IsHost (text : List Char) : Prop :=
  2 ≤ (fields (· = '.') text).length ∧
    (∀ label ∈ fields (· = '.') text, Run IsHostCharacter label) ∧
    ∃ label ∈ (fields (· = '.') text).getLast?,
      ∃ ending ∈ ["com", "org", "net", "io", "edu", "gov"], Spells label ending

/-- Something visible behind a scheme, something with a point inside behind `www`, or a host and
perhaps a path. -/
def IsAddress (text : List Char) : Prop :=
  (∃ start rest, text = start ++ rest ∧
    (∃ scheme ∈ ["http://", "https://", "ftp://"], Spells start scheme) ∧
      rest ≠ [] ∧ Visible rest) ∨
  (∃ start rest, text = start ++ rest ∧ Spells start "www." ∧ Visible rest ∧
    ∃ front back, rest = front ++ '.' :: back ∧ front ≠ [] ∧ back ≠ []) ∨
  ∃ host, '/' ∉ host ∧ IsHost host ∧
    (text = host ∨ ∃ path, text = host ++ '/' :: path ∧ Visible path)

/-! ## Letters in any case -/

variable {c letter : Char} {text : List Char}

theorem toNat_toLower (c : Char) :
    c.toLower.toNat = if 65 ≤ c.toNat ∧ c.toNat ≤ 90 then c.toNat + 32 else c.toNat := by
  have hsum : (c.val + ('a'.val - 'A'.val)).toNat = (c.toNat + 32) % 4294967296 :=
    UInt32.toNat_add ..
  have hcond : c.val ≥ 'A'.val ∧ c.val ≤ 'Z'.val ↔ 65 ≤ c.toNat ∧ c.toNat ≤ 90 :=
    and_congr UInt32.le_iff_toNat_le UInt32.le_iff_toNat_le
  unfold Char.toLower
  split
  · rename_i h
    rw [if_pos (hcond.mp h)]
    exact hsum.trans (Nat.mod_eq_of_lt (by have := (hcond.mp h).2; omega))
  · rename_i h
    rw [if_neg (mt hcond.mpr h)]

theorem toNat_toUpper (c : Char) :
    c.toUpper.toNat = if 97 ≤ c.toNat ∧ c.toNat ≤ 122 then c.toNat - 32 else c.toNat := by
  have hsum : (c.val + ('A'.val - 'a'.val)).toNat = (c.toNat + 4294967264) % 4294967296 :=
    UInt32.toNat_add ..
  have hcond : c.val ≥ 'a'.val ∧ c.val ≤ 'z'.val ↔ 97 ≤ c.toNat ∧ c.toNat ≤ 122 :=
    and_congr UInt32.le_iff_toNat_le UInt32.le_iff_toNat_le
  unfold Char.toUpper
  split
  · rename_i h
    rw [if_pos (hcond.mp h)]
    refine hsum.trans ?_
    have := hcond.mp h
    omega
  · rename_i h
    rw [if_neg (mt hcond.mpr h)]

theorem toLower_eq_iff (h : letter.toLower = letter) :
    c.toLower = letter ↔ c = letter ∨ c = letter.toUpper := by
  rw [← Char.toNat_inj, toNat_toLower] at h
  simp only [← Char.toNat_inj, toNat_toLower, toNat_toUpper]
  grind

theorem foldLetter_eq_iff (h : foldLetter letter = letter) :
    foldLetter c = letter ↔ ReadsAs c letter := by
  have hlong : 'ſ' ≠ letter := by
    rintro rfl
    exact absurd h (by decide)
  have hkelvin : '\u212a' ≠ letter := by
    rintro rfl
    exact absurd h (by decide)
  have hlower : letter.toLower = letter := by
    rwa [foldLetter, if_neg hlong.symm, if_neg hkelvin.symm] at h
  rw [ReadsAs, ← or_assoc, ← toLower_eq_iff hlower, foldLetter]
  split
  · rename_i hc
    subst hc
    have hself : 'ſ'.toLower = 'ſ' := by decide
    simp [hself, hlong, eq_comm]
  · split
    · rename_i hc
      subst hc
      have hself : '\u212a'.toLower = '\u212a' := by decide
      simp [hself, hkelvin, eq_comm]
    · rename_i hs hk
      simp [hs, hk]

theorem foldLetter_of_isLower (h : letter.isLower = true) : foldLetter letter = letter := by
  have hlong : letter ≠ 'ſ' := by
    rintro rfl
    exact absurd h (by decide)
  have hkelvin : letter ≠ '\u212a' := by
    rintro rfl
    exact absurd h (by decide)
  have hcode : 97 ≤ letter.toNat :=
    UInt32.le_iff_toNat_le.mp (of_decide_eq_true (Bool.and_eq_true_iff.mp h).1)
  rw [foldLetter, if_neg hlong, if_neg hkelvin, ← Char.toNat_inj, toNat_toLower]
  exact if_neg (by omega)

theorem isHostCharacter_iff :
    ((foldLetter c).isLower || c.isDigit || c = '-') = true ↔ IsHostCharacter c := by
  have hletter : (foldLetter c).isLower = true ↔
      ∃ letter : Char, letter.isLower = true ∧ ReadsAs c letter := by
    constructor
    · intro h
      exact ⟨foldLetter c, h, (foldLetter_eq_iff (foldLetter_of_isLower h)).mp rfl⟩
    · rintro ⟨letter, h, hreads⟩
      rwa [(foldLetter_eq_iff (foldLetter_of_isLower h)).mpr hreads]
  rw [Bool.or_eq_true, Bool.or_eq_true, hletter, decide_eq_true_iff, or_assoc, IsHostCharacter]

theorem mem_language_anyCase {lower : String}
    (h : (lower.toList.all fun l => foldLetter l = l) = true) :
    text ∈ (anyCase lower).language ↔ Spells text lower :=
  mem_language_inRow_one fun l hl _ =>
    decide_eq_true_iff.trans (foldLetter_eq_iff (of_decide_eq_true (List.all_eq_true.mp h l hl)))

theorem language_anyCase_append (s t : String) :
    (anyCase (s ++ t)).language = (anyCase s).language * (anyCase t).language := by
  rw [anyCase, String.toList_append, List.map_append, language_inRow_append]
  rfl

/-- A text that spells letters is a run of characters of hosts. -/
theorem Spells.run {lower : String} (h : Spells text lower) (hne : lower ≠ "")
    (hletters : lower.toList.all Char.isLower = true) : Run IsHostCharacter text := by
  have hchars {text letters : List Char} (h : List.Forall₂ ReadsAs text letters)
      (hletters : ∀ l ∈ letters, l.isLower = true) : ∀ c ∈ text, IsHostCharacter c := by
    induction h with
    | nil => exact fun c hc => absurd hc List.not_mem_nil
    | cons hreads _ ih =>
        obtain ⟨hletter, hletters⟩ := List.forall_mem_cons.mp hletters
        exact List.forall_mem_cons.mpr ⟨Or.inl ⟨_, hletter, hreads⟩, ih hletters⟩
  refine ⟨?_, hchars h (List.all_eq_true.mp hletters)⟩
  rintro rfl
  exact hne (String.toList_eq_nil_iff.mp (List.forall₂_nil_left_iff.mp h))

/-! ## Expressions -/

section Fields

variable {test : Char → Prop} {cs : List Char} {d : Char}

theorem Run.not_separates (h : Run test text) (hcs : ∀ d ∈ cs, ¬test d) :
    ∀ c ∈ text, decide (c ∈ cs) = false :=
  fun c hc => decide_eq_false fun hmem => hcs c hmem (h.2 c hc)

/-- A character that neither separates labels nor stands in one is not there. -/
theorem not_mem_of_fields {separates : Char → Bool}
    (h : ∀ label ∈ fields separates text, Run test label) (hd : ¬test d)
    (hseparates : separates d = false) : d ∉ text := by
  intro hmem
  rcases separates_or_mem_fields separates hmem with hsep | ⟨label, hlabel, hmem⟩
  · rw [hseparates] at hsep
    cases hsep
  · exact hd ((h label hlabel).2 d hmem)

theorem oneOf_singleton (d : Char) : oneOf [d] = .one (· = d) := by
  simp [oneOf]

theorem mem_mul_oneOf {l m : Language Char} : text ∈ l * ((oneOf [d]).language * m) ↔
    ∃ x y, x ∈ l ∧ y ∈ m ∧ text = x ++ d :: y := by
  rw [oneOf_singleton, mem_mul_separator]
  simp

end Fields

theorem mem_language_digits :
    text ∈ digits.language ↔ Run (Unicode.isDecimalDigit · = true) text :=
  mem_language_plus_one

theorem mem_language_unsigned :
    text ∈ (seq digits (many (seq (oneOf ['.', ',']) digits))).language +
      (inRow [digits, oneOf ['/'], digits]).language ↔ Unsigned text := by
  have hpoint : ¬Unicode.isDecimalDigit '.' = true := by decide +kernel
  have hcomma : ¬Unicode.isDecimalDigit ',' = true := by decide +kernel
  have hpoints : ∀ d ∈ ['.', ','], ¬Unicode.isDecimalDigit d = true := by
    simp only [List.forall_mem_cons]
    exact ⟨hpoint, hcomma, List.forall_mem_nil _⟩
  have hgroups : text ∈ (seq digits (many (seq (oneOf ['.', ',']) digits))).language ↔
      ∀ group ∈ fields (· ∈ ['.', ',']) text, group ∈ digits.language :=
    mem_language_separated fun x hx => (mem_language_digits.mp hx).not_separates hpoints
  rw [Language.mem_add, Unsigned]
  refine or_congr ?_ ?_
  · exact hgroups.trans (forall₂_congr fun _ _ => mem_language_digits)
  · simp only [language_inRow_cons, language_inRow_nil, mul_one, mem_mul_oneOf, mem_language_digits]
    constructor
    · rintro ⟨top, bottom, htop, hbottom, rfl⟩
      exact ⟨top, bottom, rfl, htop, hbottom⟩
    · rintro ⟨top, bottom, rfl, htop, hbottom⟩
      exact ⟨top, bottom, htop, hbottom, rfl⟩

theorem mem_language_number : text ∈ number.language ↔ IsNumber text := by
  rw [number, language, Language.mem_mul, language]
  simp only [mem_language_maybe, mem_language_unsigned]
  constructor
  · rintro ⟨sign, ⟨c, hc, rfl⟩ | rfl, rest, hrest, rfl⟩
    · rcases (by simpa using hc : c = '+' ∨ c = '-') with rfl | rfl
      · exact ⟨rest, Or.inr (Or.inl rfl), hrest⟩
      · exact ⟨rest, Or.inr (Or.inr rfl), hrest⟩
    · exact ⟨rest, Or.inl rfl, hrest⟩
  · rintro ⟨rest, rfl | rfl | rfl, hrest⟩
    · exact ⟨[], Or.inr rfl, text, hrest, rfl⟩
    · exact ⟨['+'], Or.inl ⟨'+', by decide, rfl⟩, rest, hrest, rfl⟩
    · exact ⟨['-'], Or.inl ⟨'-', by decide, rfl⟩, rest, hrest, rfl⟩

/-- Two labels or more: some, and one behind the last point. -/
theorem mem_language_labels {body last : Expression} {test : Char → Prop} {text : List Char}
    (hbody : ∀ x, x ∈ body.language ↔ Run test x) (hlast : ∀ x ∈ last.language, Run test x)
    (hpoint : ¬test '.') :
    text ∈ (seq body (many (seq (oneOf ['.']) body))).language *
        ((oneOf ['.']).language * last.language) ↔
      2 ≤ (fields (· = '.') text).length ∧ (∀ label ∈ fields (· = '.') text, Run test label) ∧
        ∃ label ∈ (fields (· = '.') text).getLast?, label ∈ last.language := by
  have hseparates : ∀ x ∈ body.language, ∀ c ∈ x, decide (c = '.') = false := by
    intro x hx c hc
    refine decide_eq_false ?_
    rintro rfl
    exact hpoint (((hbody x).mp hx).2 _ hc)
  rw [oneOf_singleton,
    mem_language_separated_last hseparates fun x hx => (hbody x).mpr (hlast x hx)]
  simp only [hbody]

theorem mem_language_mailbox : text ∈ (plus (one mailboxCharacter)).language ↔
    Run (fun c => Unicode.isWordCharacter c = true ∨ c ∈ ['.', '+', '-']) text := by
  simp [mem_language_plus_one, mailboxCharacter, Run, or_assoc]

theorem mem_language_domainLabel : text ∈ (plus (one domainCharacter)).language ↔
    Run (fun c => Unicode.isWordCharacter c = true ∨ c = '-') text := by
  simp [mem_language_plus_one, domainCharacter, Run]

theorem mem_language_domain :
    text ∈ (plus (one domainCharacter)).language *
        (plus (seq (oneOf ['.']) (plus (one domainCharacter)))).language ↔
      2 ≤ (fields (· = '.') text).length ∧ ∀ label ∈ fields (· = '.') text,
        Run (fun c => Unicode.isWordCharacter c = true ∨ c = '-') label := by
  have hform : (plus (one domainCharacter)).language *
      (plus (seq (oneOf ['.']) (plus (one domainCharacter)))).language =
      (seq (plus (one domainCharacter))
        (many (seq (oneOf ['.']) (plus (one domainCharacter))))).language *
          ((oneOf ['.']).language * (plus (one domainCharacter)).language) := by
    rw [language_plus (seq _ _), ← mul_assoc]
    rfl
  have hpoint : ¬(Unicode.isWordCharacter '.' = true ∨ '.' = '-') := by decide +kernel
  rw [hform, mem_language_labels (fun _ => mem_language_domainLabel)
    (fun _ => mem_language_domainLabel.mp) hpoint]
  refine and_congr_right fun _ => and_iff_left_of_imp fun hlabels => ?_
  have hne : fields (· = '.') text ≠ [] := fields_ne_nil _ text
  exact ⟨_, List.getLast?_eq_some_getLast hne,
    mem_language_domainLabel.mpr (hlabels _ (List.getLast_mem hne))⟩

theorem mem_language_email : text ∈ email.language ↔ IsMail text := by
  have hmailbox : ¬(Unicode.isWordCharacter '@' = true ∨ '@' ∈ ['.', '+', '-']) := by
    decide +kernel
  have hdomain : ¬(Unicode.isWordCharacter '@' = true ∨ '@' = '-') := by decide +kernel
  simp only [email, language_inRow_cons, language_inRow_nil, mul_one, mem_mul_oneOf,
    mem_language_mailbox, mem_language_domain]
  constructor
  · rintro ⟨mailbox, domain, hbox, ⟨hlength, hlabels⟩, rfl⟩
    exact ⟨mailbox, domain, rfl, fun hmem => hmailbox (hbox.2 _ hmem),
      not_mem_of_fields hlabels hdomain (by decide), hbox, hlength, hlabels⟩
  · rintro ⟨mailbox, domain, rfl, -, -, hbox, hdomain⟩
    exact ⟨mailbox, domain, hbox, hdomain, rfl⟩

theorem mem_language_label : text ∈ label.language ↔ Run IsHostCharacter text := by
  rw [label, mem_language_plus_one]
  simp only [isHostCharacter_iff, Run]

theorem mem_language_many_visible : text ∈ (many visible).language ↔ Visible text := by
  simp [visible, mem_language_many_one, Visible]

theorem mem_language_plus_visible :
    text ∈ (plus visible).language ↔ text ≠ [] ∧ Visible text := by
  simp [visible, mem_language_plus_one, Visible]

theorem mem_language_endings :
    text ∈ ((hostEndings.map anyCase).foldr either never).language ↔
      ∃ ending ∈ ["com", "org", "net", "io", "edu", "gov"], Spells text ending := by
  have hletters : ∀ ending ∈ hostEndings,
      (ending.toList.all fun l => foldLetter l = l) = true := by decide
  rw [mem_language_foldr_either]
  constructor
  · rintro ⟨e, he, htext⟩
    obtain ⟨ending, hending, rfl⟩ := List.mem_map.mp he
    exact ⟨ending, hending, (mem_language_anyCase (hletters ending hending)).mp htext⟩
  · rintro ⟨ending, hending, htext⟩
    exact ⟨anyCase ending, List.mem_map_of_mem hending,
      (mem_language_anyCase (hletters ending hending)).mpr htext⟩

theorem mem_language_host :
    text ∈ (seq label (many (seq (oneOf ['.']) label))).language * ((oneOf ['.']).language *
      ((hostEndings.map anyCase).foldr either never).language) ↔ IsHost text := by
  have hending : ∀ x ∈ ((hostEndings.map anyCase).foldr either never).language,
      Run IsHostCharacter x := by
    intro x hx
    obtain ⟨ending, hmem, hspells⟩ := mem_language_endings.mp hx
    have hletters : ∀ ending ∈ ["com", "org", "net", "io", "edu", "gov"],
        ending ≠ "" ∧ ending.toList.all Char.isLower = true := by decide
    exact hspells.run (hletters ending hmem).1 (hletters ending hmem).2
  have hpoint : ¬IsHostCharacter '.' := by
    rw [← isHostCharacter_iff]
    decide
  rw [mem_language_labels (fun _ => mem_language_label) hending hpoint]
  simp only [mem_language_endings, IsHost]

theorem mem_language_hostAddress : text ∈ hostAddress.language ↔
    ∃ host, '/' ∉ host ∧ IsHost host ∧
      (text = host ∨ ∃ path, text = host ++ '/' :: path ∧ Visible path) := by
  have hform : hostAddress.language = (seq label (many (seq (oneOf ['.']) label))).language *
      ((oneOf ['.']).language * ((hostEndings.map anyCase).foldr either never).language) *
        (maybe (seq (oneOf ['/']) (many visible))).language := by
    simp only [hostAddress, language_inRow_cons, language_inRow_nil, mul_one, language_seq label,
      mul_assoc]
  have hslash : ¬IsHostCharacter '/' := by
    rw [← isHostCharacter_iff]
    decide
  have hnone {host : List Char} (h : IsHost host) : '/' ∉ host :=
    not_mem_of_fields h.2.1 hslash (by decide)
  rw [hform, mem_mul_maybe, language_seq (oneOf ['/']), mem_mul_oneOf]
  simp only [mem_language_host, mem_language_many_visible]
  constructor
  · rintro (⟨host, path, h, hpath, rfl⟩ | h)
    · exact ⟨host, hnone h, h, Or.inr ⟨path, rfl, hpath⟩⟩
    · exact ⟨text, hnone h, h, Or.inl rfl⟩
  · rintro ⟨host, -, h, rfl | ⟨path, rfl, hpath⟩⟩
    · exact Or.inr h
    · exact Or.inl ⟨host, path, h, hpath, rfl⟩

theorem mem_language_wwwAddress : text ∈ wwwAddress.language ↔
    ∃ start rest, text = start ++ rest ∧ Spells start "www." ∧ Visible rest ∧
      ∃ front back, rest = front ++ '.' :: back ∧ front ≠ [] ∧ back ≠ [] := by
  have hstart (x : List Char) : x ∈ (anyCase "www.").language ↔ Spells x "www." :=
    mem_language_anyCase (by decide)
  have hpoint : Unicode.isWhiteSpace '.' = false := by decide +kernel
  have hsplit {front back : List Char} :
      Visible (front ++ '.' :: back) ↔ Visible front ∧ Visible back := by
    simp [Visible, or_imp, forall_and, hpoint]
  rw [wwwAddress, language_inRow_cons, Language.mem_mul]
  simp only [language_inRow_cons, language_inRow_nil, mul_one, mem_mul_oneOf, hstart,
    mem_language_plus_visible]
  constructor
  · rintro ⟨start, hstart, _, ⟨front, back, ⟨hfront, hvisible⟩, ⟨hback, hvisible'⟩, rfl⟩, rfl⟩
    exact ⟨start, _, rfl, hstart, hsplit.mpr ⟨hvisible, hvisible'⟩, front, back, rfl, hfront, hback⟩
  · rintro ⟨start, _, rfl, hstart, hvisible, front, back, rfl, hfront, hback⟩
    obtain ⟨hvisible, hvisible'⟩ := hsplit.mp hvisible
    exact ⟨start, hstart, _, ⟨front, back, ⟨hfront, hvisible⟩, ⟨hback, hvisible'⟩, rfl⟩, rfl⟩

theorem mem_language_schemeAddress : text ∈ schemeAddress.language ↔
    ∃ start rest, text = start ++ rest ∧
      (∃ scheme ∈ ["http://", "https://", "ftp://"], Spells start scheme) ∧
        rest ≠ [] ∧ Visible rest := by
  have hhttps : (anyCase "https://").language =
      (anyCase "http").language * (anyCase "s").language * (anyCase "://").language := by
    rw [← language_anyCase_append, ← language_anyCase_append]
    rfl
  have hhttp : (anyCase "http://").language =
      (anyCase "http").language * (anyCase "://").language := language_anyCase_append "http" "://"
  have hftp : (anyCase "ftp://").language =
      (anyCase "ftp").language * (anyCase "://").language := language_anyCase_append "ftp" "://"
  have hform : schemeAddress.language = ((anyCase "https://").language +
      (anyCase "http://").language + (anyCase "ftp://").language) * (plus visible).language := by
    simp only [schemeAddress, language_inRow_cons, language_inRow_nil, language_either,
      language_seq, language_maybe, hhttps, hhttp, hftp, mul_add, add_mul, mul_one, mul_assoc]
  have hscheme (x : List Char) : x ∈ (anyCase "https://").language +
      (anyCase "http://").language + (anyCase "ftp://").language ↔
        ∃ scheme ∈ ["http://", "https://", "ftp://"], Spells x scheme := by
    rw [Language.mem_add, Language.mem_add, mem_language_anyCase (by decide),
      mem_language_anyCase (by decide), mem_language_anyCase (by decide)]
    simp [or_assoc, or_left_comm]
  rw [hform, Language.mem_mul]
  simp only [hscheme, mem_language_plus_visible]
  constructor
  · rintro ⟨start, hstart, rest, hrest, rfl⟩
    exact ⟨start, rest, rfl, hstart, hrest⟩
  · rintro ⟨start, rest, rfl, hstart, hrest⟩
    exact ⟨start, hstart, rest, hrest, rfl⟩

theorem mem_language_url : text ∈ url.language ↔ IsAddress text := by
  rw [url, language, language, Language.mem_add, Language.mem_add, mem_language_schemeAddress,
    mem_language_wwwAddress, mem_language_hostAddress, IsAddress]

/-! ## Flags -/

/-- The flags of a word tell whether it resembles a number, a mail address or an address. -/
theorem likeFlags_iff (word : String) :
    ((wordFlags word).has .likeNumber = true ↔
      Unicode.lower word ∈ numberWords ∨ IsNumber word.toList) ∧
    ((wordFlags word).has .likeEmail = true ↔ IsMail word.toList) ∧
    ((wordFlags word).has .likeUrl = true ↔ IsAddress word.toList) := by
  have hflags (f : Flag) (hf : wordHas [] (Unicode.lower "") f = false) :
      (wordFlags word).has f = wordHas word.toList (Unicode.lower word) f := by
    rw [wordFlags]
    split
    · rename_i hempty
      rw [hempty, FlagSet.has_empty]
      exact hf.symm
    · exact FlagSet.has_ofTest _ f
  rw [hflags .likeNumber (by decide +kernel), hflags .likeEmail (by decide +kernel),
    hflags .likeUrl (by decide +kernel)]
  refine ⟨?_, accepts_iff.trans mem_language_email, accepts_iff.trans mem_language_url⟩
  rw [wordHas, Bool.or_eq_true, accepts_iff, mem_language_number, List.contains_iff_mem, or_comm]

example : (wordFlags "1,000.5").has .likeNumber = true ∧
    (wordFlags "1,,5").has .likeNumber = false ∧
    (wordFlags "WWW.example.org").has .likeUrl = true ∧
    (wordFlags "www..org").has .likeUrl = false := by
  decide +kernel

end SpanRules.Resemblance
