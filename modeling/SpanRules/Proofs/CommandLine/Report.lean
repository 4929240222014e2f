import SpanRules.Proofs.CommandLine.RuleFile
import SpanRules.Proofs.Json.Strings
import SpanRules.Proofs.Text.Bytes
import SpanRules.Text.Hash

/-! # What a run prints

A run shows every match of the two books of its rule file, with the text of its key and the words of
its span. As JSON a match is one line, and a report lists the same rows in its two sections. The
texts are looked up by their identities, so the keys of the file and the texts of the input have to
be told apart.
-/

namespace SpanRules

/-! ## Numbers -/

theorem printInt_natCast (n : Nat) : printInt n = toString n := by
  have hsign : ¬(n : Int) < 0 := by omega
  rw [printInt, if_neg hsign]
  rfl

theorem newline_not_mem_printInt (n : Int) : '\n' ∉ (printInt n).toList := by
  rw [printInt, String.toList_append, String.toList_ofList, List.mem_append, not_or]
  constructor
  · split <;> decide
  · intro h
    have hdigit := Nat.isDigit_of_mem_toDigits (by decide) (by decide) h
    exact absurd hdigit (by decide)

namespace CommandLine

/-! ## Rows in print -/

/-- The line is a JSON object of a kind, with the key, the span and the text of a row. The key and
the text stand there as JSON strings that are read as what they are. -/
def Row.IsObject (kind : String) (r : Row) (line : String) : Prop :=
  ∃ key text, Json.read key = some (.string r.key) ∧ Json.read text = some (.string r.text) ∧
    line = "\x7b\"kind\":\"" ++ kind ++ "\",\"key\":" ++ key ++ ",\"start\":" ++ toString r.start ++
      ",\"end\":" ++ toString r.stop ++ ",\"text\":" ++ text ++ "\x7d"

/-- A text between the sequence that starts a style of the terminal and the one that ends it, or as
it is without styles. -/
def styled (on : Bool) (code text : String) : String :=
  if on then "\x1b[" ++ code ++ "m" ++ text ++ "\x1b[0m" else text

/-- The line of a report for a row, with its number. -/
def Row.numbered (on : Bool) (index : Nat) (r : Row) : String :=
  "  " ++ styled on "90" ("[" ++ toString index ++ "]") ++ " " ++
    styled on "1" (styled on "34" r.key) ++ " " ++ styled on "2" "│" ++ " " ++
    styled on "33" ("span " ++ toString r.start ++ ".." ++ toString r.stop) ++ " " ++
    styled on "32" ("\"" ++ r.text ++ "\"")

section Print

variable {kind : String} {r : Row}

theorem Row.print_toJson (hkind : Json.printString kind = "\"" ++ kind ++ "\"") (r : Row) :
    (r.toJson kind).print = "\x7b\"kind\":\"" ++ kind ++ "\",\"key\":" ++ Json.printString r.key ++
      ",\"start\":" ++ toString r.start ++ ",\"end\":" ++ toString r.stop ++ ",\"text\":" ++
      Json.printString r.text ++ "\x7d" := by
  obtain ⟨hkind', hkey, hstart, hend, htext⟩ : Json.printString "kind" = "\"kind\"" ∧
      Json.printString "key" = "\"key\"" ∧ Json.printString "start" = "\"start\"" ∧
      Json.printString "end" = "\"end\"" ∧ Json.printString "text" = "\"text\"" := by
    decide +kernel
  apply String.toList_inj.mp
  simp [Row.toJson, Json.print, Json.printMembers, JsonNumber.print, printInt_natCast, hkind,
    hkind', hkey, hstart, hend, htext]

/-- The texts in a row are printed as strings that are read back. -/
theorem Row.isObject_print (hkind : Json.printString kind = "\"" ++ kind ++ "\"") (r : Row) :
    r.IsObject kind (r.toJson kind).print :=
  ⟨Json.printString r.key, Json.printString r.text, Json.read_printString r.key,
    Json.read_printString r.text, r.print_toJson hkind⟩

/-- A row is printed on one line, whatever the text of its key. -/
theorem Row.newline_not_mem_print (kind : String) (r : Row) :
    '\n' ∉ (r.toJson kind).print.toList := by
  simp [Row.toJson, Json.print, Json.printMembers, JsonNumber.print, newline_not_mem_printInt,
    newline_not_mem_printString]

/-- The number of a style on a terminal. -/
def Style.code : Style → String
  | .bold => "1"
  | .dim => "2"
  | .green => "32"
  | .yellow => "33"
  | .blue => "34"
  | .cyan => "36"
  | .gray => "90"

theorem paint_eq_styled (style : Style) (on : Bool) (text : String) :
    style.paint on text = styled on style.code text := by
  cases on
  · rfl
  · cases style <;> rfl

theorem Row.line_eq_numbered (on : Bool) (index : Nat) (r : Row) :
    r.line on index = r.numbered on index := by
  apply String.toList_inj.mp
  simp [Row.line, Row.numbered, paint_eq_styled, Style.code, printInt_natCast]

end Print

/-! ## Rows -/

variable [Hashing]

/-- A row shows a match in words: the text of its key, which is one of some keys, its span and the
words of the span. -/
structure Row.Shows (keys words : List String) (r : Row) (m : Match) : Prop where
  known : r.key ∈ keys
  key : m.key = .of r.key
  start : r.start = m.start
  stop : r.stop = m.stop
  text : r.text = joinWords (words.extract m.start m.stop)

/-- Rows by start, then by stop, then by the bytes of the key. -/
def Row.Precedes (r s : Row) : Prop :=
  r.start < s.start ∨ r.start = s.start ∧
    (r.stop < s.stop ∨ r.stop = s.stop ∧ bytesOf r.key < bytesOf s.key)

/-- The rows show matches in words and stand in order. Each of the lines is the JSON object of one
of them, in this order, and has no newline. -/
structure Presents (kind : String) (keys words : List String) (found : List Match)
    (rows : List Row) (lines : List String) : Prop where
  shows : List.Forall₂ (Row.Shows keys words) rows found
  ordered : rows.Pairwise Row.Precedes
  objects : List.Forall₂ (Row.IsObject kind) rows lines
  single : ∀ line ∈ lines, '\n' ∉ line.toList

section Rows

variable {keys words : List String} {keyText? : TextId → Option String} {found : List Match}

theorem Row.shows_of (hwords : TextId.DistinctOn (Document.textsOf words))
    (h : Match.Listed keys keyText? found) {m : Match} (hm : m ∈ found) :
    Row.Shows keys words (.of keyText? (Document.ofWords words) m) m := by
  obtain ⟨key, hkey, hid, htext⟩ := h.named m hm
  have hrow : (Row.of keyText? (Document.ofWords words) m).key = key := by
    rw [Row.of, htext, Option.getD_some]
  exact ⟨hrow ▸ hkey, hrow ▸ hid, rfl, rfl, Document.spanText_ofWords hwords m.start m.stop⟩

/-- The rows of matches that stand in order show the matches, and stand in order themselves. -/
theorem presents_of_listed {kind : String} (hkind : Json.printString kind = "\"" ++ kind ++ "\"")
    (hkeys : TextId.DistinctOn keys) (hwords : TextId.DistinctOn (Document.textsOf words))
    (h : Match.Listed keys keyText? found) :
    let rows := found.map (.of keyText? (Document.ofWords words))
    Presents kind keys words found rows (rows.map fun r => (r.toJson kind).print) where
  shows := by
    rw [List.forall₂_map_left_iff, List.forall₂_same]
    exact fun m hm => Row.shows_of hwords h hm
  ordered := by
    refine List.pairwise_map.mpr (h.ordered.imp_of_mem ?_)
    intro m n hm hn hmn
    refine hmn.imp_right fun ⟨hstart, hrest⟩ => ⟨hstart, hrest.imp_right fun ⟨hstop, hplaces⟩ => ?_⟩
    obtain ⟨j, hj, k, hk, hmj, hnk, hlt⟩ := hplaces
    have hm := Row.shows_of hwords h hm
    have hn := Row.shows_of hwords h hn
    have hjm := hkeys _ hj _ hm.known (hmj.symm.trans hm.key)
    have hkn := hkeys _ hk _ hn.known (hnk.symm.trans hn.key)
    exact ⟨hstop, hjm ▸ hkn ▸ bytesOf_lt_bytesOf hlt⟩
  objects := by
    rw [List.forall₂_map_right_iff, List.forall₂_same]
    exact fun r _ => r.isObject_print hkind
  single := by
    intro line hline
    obtain ⟨r, -, rfl⟩ := List.mem_map.mp hline
    exact r.newline_not_mem_print kind

/-- Two ways of telling the texts of keys make the same rows if both know the keys. -/
theorem map_of_eq_map_of (hkeys : TextId.DistinctOn keys) {keyText?' : TextId → Option String}
    (h : Match.Listed keys keyText? found) (h' : Match.Listed keys keyText?' found)
    (d : Document) : found.map (Row.of keyText? d) = found.map (Row.of keyText?' d) := by
  refine List.map_congr_left fun m hm => ?_
  obtain ⟨key, hkey, hid, htext⟩ := h.named m hm
  obtain ⟨key', hkey', hid', htext'⟩ := h'.named m hm
  rw [Row.of, Row.of, htext, htext', hkeys key hkey key' hkey' (hid.symm.trans hid')]

end Rows

/-! ## Runs -/

/-- The words of the input: those of the arguments in order, or else those of the standard input, as
far as it can be read. -/
def Arguments.words (a : Arguments) (stdin : Except String String) : List String :=
  if a.input = [] then stdin.toOption.elim [] wordsOf else a.input.flatMap wordsOf

omit [Hashing] in
/-- An input with words can be read, and has these words. -/
theorem exists_inputText {a : Arguments} {stdin : Except String String} (h : a.words stdin ≠ []) :
    ∃ text, a.inputText stdin = .ok text ∧ wordsOf text = a.words stdin := by
  unfold Arguments.words at h ⊢
  unfold Arguments.inputText
  by_cases hnil : a.input = []
  · simp only [hnil, if_true, List.isEmpty_nil] at h ⊢
    cases stdin with
    | error cause => exact absurd rfl h
    | ok text => exact ⟨text, rfl, rfl⟩
  · refine ⟨joinWords a.input, ?_, ?_⟩
    · simp [hnil, joinWords_eq_intercalate]
    · rw [if_neg hnil, wordsOf_joinWords]

theorem document_eq {a : Arguments} {stdin : Except String String} (h : a.words stdin ≠ []) :
    a.document stdin = .ok (Document.ofWords (a.words stdin)) := by
  obtain ⟨text, htext, hwords⟩ := exists_inputText h
  have hblank : isBlank text = false := by
    rw [← Bool.not_eq_true, isBlank_iff, hwords]
    exact h
  rw [Arguments.document, htext]
  simp [hblank, Document.ofText, hwords]

/-- A run whose rule file is accepted searches the words of its input and prints what it finds. -/
theorem run_eq {a : Arguments} {s : Surroundings} {file : RuleFile} {text : String}
    (htext : s.file = .ok text) (hfile : RuleFile.read text = some file)
    (haccepted : file.Accepted a.options.unknown) (hwords : a.words s.stdin ≠ []) :
    run a s =
      let books : Books := ⟨file.ruleBook a.options, file.phraseBook a.attr⟩
      let findings := books.search (Document.ofWords (a.words s.stdin))
      .ofLines (findings.lines a books s.terminal s.timing) := by
  have hbooks : Books.ofFile a file = .ok ⟨file.ruleBook a.options, file.phraseBook a.attr⟩ :=
    ofFile_eq_ok_iff.mpr ⟨haccepted, rfl⟩
  have hload : Books.load a s.complaint s.file =
      .ok ⟨file.ruleBook a.options, file.phraseBook a.attr⟩ := by
    simp [Books.load, readFile, htext, hfile, hbooks]
  simp [run, hload, Books.findings, document_eq hwords, Reply.ofFindings]

/-- The section of a report that lists rows, or says why there are none. -/
def sectionLines (on : Bool) (notice : String) (rows : List Row) : List String :=
  if rows = [] then [styled on "2" notice] else rows.zipIdx.map fun r => r.1.numbered on r.2

/-- The lines of a report on words that lists rows in its two sections. Without phrases in the rule
file there is one section. -/
def reportOf (on : Bool) (file : RuleFile) (attr : TextAttribute) (words : List String)
    (patternRows phraseRows : List Row) (effort : Effort) (timing : Timing) : List String :=
  let title := "⚙  Matching: \"" ++ joinWords words ++ "\" (" ++ toString words.length ++ " tokens)"
  ["", styled on "1" (styled on "36" title), "", styled on "90" "━━━ Pattern matches ━━━"] ++
  sectionLines on (if file.patterns = [] then "  No pattern rules loaded" else "  No matches")
    patternRows ++
  (if file.phrases = [] then []
   else ["", styled on "90" ("━━━ Phrase matches (" ++ attr.name ++ ") ━━━")] ++
     sectionLines on "  No matches" phraseRows) ++
  ["", styled on "90" "━━━ Engine ━━━"] ++ Effort.lines on effort ++
  ["", styled on "90" "━━━ Timing ━━━", Timing.line on timing, ""]

/-- The text of lines each of which is ended by a newline. -/
def printed (lines : List String) : String :=
  String.join (lines.map (· ++ "\n"))

omit [Hashing] in
theorem heading_eq (on : Bool) (title : String) :
    heading on title = ["", styled on "90" ("━━━ " ++ title ++ " ━━━")] := by
  rw [heading, paint_eq_styled, Style.code]

omit [Hashing] in
theorem rowLines_eq_sectionLines (on : Bool) (rows : List Row) :
    rowLines on rows = sectionLines on "  No matches" rows := by
  simp only [rowLines, sectionLines, List.isEmpty_iff, Row.line_eq_numbered, paint_eq_styled,
    Style.code]

section Search

variable {a : Arguments} {s : Surroundings} {file : RuleFile} {options : Options}
  {attr : TextAttribute} {words : List String} {text : String}

/-- The rows of what the patterns of a file match in words. -/
def patternRowsOf (file : RuleFile) (options : Options) (words : List String) : List Row :=
  ((file.ruleBook options).find (Document.ofWords words).view).map
    (.of (file.ruleBook options).keyText? (Document.ofWords words))

/-- The rows of where the phrases of a file stand in words. -/
def phraseRowsOf (file : RuleFile) (attr : TextAttribute) (words : List String) : List Row :=
  ((file.phraseBook attr).find (Document.ofWords words).view).map
    (.of (file.phraseBook attr).keyText? (Document.ofWords words))

theorem patternRowsOf_prescan (hsorted : file.Sorted)
    (hkeys : TextId.DistinctOn file.patternKeys) (haccepted : file.Accepted options.unknown)
    (prescan : Bool) (words : List String) :
    patternRowsOf file { options with prescan } words = patternRowsOf file options words := by
  have hfind := RuleFile.find_ruleBook_prescan file options prescan (Document.ofWords words).view
  have hscanned := RuleFile.listed_find_ruleBook hsorted hkeys { options with prescan } haccepted
    (Document.ofWords words).view
  have hplain := RuleFile.listed_find_ruleBook hsorted hkeys options haccepted
    (Document.ofWords words).view
  rw [hfind] at hscanned
  rw [patternRowsOf, patternRowsOf, hfind]
  exact map_of_eq_map_of hkeys hscanned hplain _

theorem patternRowsOf_nil (hsorted : file.Sorted) (hkeys : TextId.DistinctOn file.patternKeys)
    (haccepted : file.Accepted options.unknown) (hnil : file.patterns = []) :
    patternRowsOf file options words = [] := by
  apply List.map_eq_nil_iff.mpr
  apply List.eq_nil_iff_forall_not_mem.mpr
  intro m hm
  obtain ⟨key, hkey, -⟩ :=
    (RuleFile.listed_find_ruleBook hsorted hkeys options haccepted _).named m hm
  simp [RuleFile.patternKeys, hnil] at hkey

theorem reportLines_search (hsorted : file.Sorted) (hkeys : TextId.DistinctOn file.patternKeys)
    (hwords : TextId.DistinctOn (Document.textsOf words))
    (haccepted : file.Accepted options.unknown) (on : Bool) (timing : Timing) :
    let books : Books := ⟨file.ruleBook options, file.phraseBook attr⟩
    (books.search (Document.ofWords words)).reportLines on books timing =
      reportOf on file attr words (patternRowsOf file options words) (phraseRowsOf file attr words)
        ((file.ruleBook options).measure (Document.ofWords words).view).2 timing := by
  intro books
  have hrules : books.rules.isEmpty = true ↔ file.patterns = [] :=
    RuleFile.isEmpty_ruleBook hsorted hkeys haccepted
  have hphrases : books.phrases.isEmpty = true ↔ file.phrases = [] :=
    RuleFile.isEmpty_phraseBook haccepted
  have hattr : books.phrases.attr = attr := (PhraseBook.logs_history attr file.phraseChanges).attr
  have hsection : (if books.rules.isEmpty then [styled on "2" "  No pattern rules loaded"]
      else sectionLines on "  No matches" (patternRowsOf file options words)) = sectionLines on
        (if file.patterns = [] then "  No pattern rules loaded" else "  No matches")
        (patternRowsOf file options words) := by
    by_cases hnil : file.patterns = []
    · rw [if_pos (hrules.mpr hnil), if_pos hnil, patternRowsOf_nil hsorted hkeys haccepted hnil]
      rfl
    · rw [if_neg (mt hrules.mp hnil), if_neg hnil]
  rw [reportOf, ← hsection, ← Document.text_ofWords hwords, ← Document.size_ofWords]
  have htitle (name : String) : "━━━ " ++ ("Phrase matches (" ++ name ++ ")") ++ " ━━━" =
      "━━━ Phrase matches (" ++ name ++ ") ━━━" := by
    apply String.toList_inj.mp
    simp
  simp only [Findings.reportLines, rowLines_eq_sectionLines, heading_eq, paint_eq_styled,
    Style.code, printInt_natCast, hphrases, hattr, htitle, List.append_assoc, List.cons_append,
    List.nil_append]
  rfl

/-- A run that prints JSON prints the rows. -/
theorem run_json (htext : s.file = .ok text) (hfile : RuleFile.read text = some file)
    (haccepted : file.Accepted a.options.unknown) (hwords : a.words s.stdin ≠ [])
    (hjson : a.json = true) :
    run a s =
      let patternRows := patternRowsOf file a.options (a.words s.stdin)
      let phraseRows := phraseRowsOf file a.attr (a.words s.stdin)
      ⟨0, printed (patternRows.map (fun r => (r.toJson "pattern").print) ++
        phraseRows.map fun r => (r.toJson "phrase").print), ""⟩ := by
  rw [run_eq htext hfile haccepted hwords]
  simp only [Findings.lines, hjson, if_true]
  rfl

/-- A run that prints a report lists the rows in its sections. -/
theorem run_report (htext : s.file = .ok text) (hfile : RuleFile.read text = some file)
    (haccepted : file.Accepted a.options.unknown) (hwords : a.words s.stdin ≠ [])
    (hkeys : TextId.DistinctOn file.patternKeys)
    (htexts : TextId.DistinctOn (Document.textsOf (a.words s.stdin))) (hjson : a.json = false) :
    run a s =
      ⟨0, printed (reportOf (a.colored s.terminal) file a.attr (a.words s.stdin)
        (patternRowsOf file a.options (a.words s.stdin))
        (phraseRowsOf file a.attr (a.words s.stdin))
        ((file.ruleBook a.options).measure (Document.ofWords (a.words s.stdin)).view).2 s.timing),
        ""⟩ := by
  have hsorted := RuleFile.sorted_of_read hfile
  rw [run_eq htext hfile haccepted hwords, ← reportLines_search hsorted hkeys htexts haccepted]
  simp only [Findings.lines, hjson, Bool.false_eq_true, if_false]
  rfl

end Search

/-- A run whose rule file is accepted and whose input has words presents what the book of patterns
and the book of phrases find in the words, where the keys of each kind and the texts of the input
are told apart. As JSON there is one line for each match and nothing else, and a report lists the
same rows in its sections. Whether the tokens are scanned first changes no row, and comparing
phrases in lower case changes no row of a pattern. -/
theorem run_shows_matches (a : Arguments) (s : Surroundings) (file : RuleFile) (text : String)
    (htext : s.file = .ok text) (hfile : RuleFile.read text = some file)
    (haccepted : file.Accepted a.options.unknown) (hwords : a.words s.stdin ≠ [])
    (hpatternKeys : TextId.DistinctOn file.patternKeys)
    (hphraseKeys : TextId.DistinctOn file.phraseKeys)
    (htexts : TextId.DistinctOn (Document.textsOf (a.words s.stdin))) :
    let words := a.words s.stdin
    let view := (Document.ofWords words).view
    ∃ (patternRows : List Row) (patternLines : List String) (phraseRows : Bool → List Row)
      (phraseLines : Bool → List String), ∀ noPrescan lower,
        let b := { a with noPrescan, lower }
        let attr : TextAttribute := if lower then .lower else .orth
        Presents "pattern" file.patternKeys words ((file.ruleBook b.options).find view)
          patternRows patternLines ∧
        Presents "phrase" file.phraseKeys words ((file.phraseBook attr).find view)
          (phraseRows lower) (phraseLines lower) ∧
        run { b with json := true } s = ⟨0, printed (patternLines ++ phraseLines lower), ""⟩ ∧
        run { b with json := false } s =
          ⟨0, printed (reportOf (b.colored s.terminal) file attr words patternRows
            (phraseRows lower) ((file.ruleBook b.options).measure view).2 s.timing), ""⟩ := by
  intro words view
  have hsorted := RuleFile.sorted_of_read hfile
  let patternRows := patternRowsOf file a.options words
  let phraseRows (lower : Bool) := phraseRowsOf file (if lower then .lower else .orth) words
  refine ⟨patternRows, patternRows.map fun r => (r.toJson "pattern").print, phraseRows,
    fun lower => (phraseRows lower).map fun r => (r.toJson "phrase").print, ?_⟩
  intro noPrescan lower b attr
  have hrows : patternRowsOf file b.options words = patternRows :=
    patternRowsOf_prescan hsorted hpatternKeys haccepted (!noPrescan) words
  refine ⟨?_, ?_, ?_, ?_⟩
  · have hlisted :=
      RuleFile.listed_find_ruleBook hsorted hpatternKeys b.options haccepted view
    rw [← hrows]
    exact presents_of_listed (by decide +kernel) hpatternKeys htexts hlisted
  · exact presents_of_listed (by decide +kernel) hphraseKeys htexts
      (RuleFile.listed_find_phraseBook hsorted hphraseKeys attr view)
  · rw [← hrows]
    exact run_json (a := { b with json := true }) htext hfile haccepted hwords rfl
  · rw [← hrows]
    exact run_report (a := { b with json := false }) htext hfile haccepted hwords hpatternKeys
      htexts rfl

/-- A rule file with one word, as a pattern and as a phrase of two keys. -/
def oneWordText : String :=
  "[\x7b\"p\":[[\x7b\"ORTH\":\"x\"\x7d]]\x7d,\x7b\"b\":[\"x\"],\"a\":[\"x\"]\x7d]"

def oneWordFile : RuleFile where
  patterns := [("p", [.array [.object [("ORTH", .string "x")]]])]
  phrases := [("a", ["x"]), ("b", ["x"])]

omit [Hashing] in
theorem read_oneWordText : RuleFile.read oneWordText = some oneWordFile := by
  have houtline : JsonOutline.read oneWordText = some (.array
      [.object [([.char 'p'], .array [.array [.object
        [([.char 'O', .char 'R', .char 'T', .char 'H'], .string [.char 'x'])]]])],
       .object [([.char 'b'], .array [.string [.char 'x']]),
        ([.char 'a'], .array [.string [.char 'x']])]]) := by
    with_unfolding_all rfl
  rw [RuleFile.read, houtline]
  rfl

theorem accepted_oneWordFile : oneWordFile.Accepted .refuse where
  patterns := by
    intro e he
    obtain rfl := List.mem_singleton.mp he
    refine ⟨List.cons_ne_nil _ _, fun json hjson => ?_⟩
    obtain rfl := List.mem_singleton.mp hjson
    exact ⟨_, rfl⟩
  phrases := by decide +kernel

theorem rules_oneWordFile : (oneWordFile.ruleBook {}).rules =
    [⟨.of "p", [⟨[⟨⟨[(.text .orth, .text (.of "x"))], false⟩, .one⟩], List.cons_ne_nil _ _⟩],
      none⟩] :=
  rfl

/-- The pattern matches the word, whatever the hash. -/
theorem find_ruleBook_oneWordFile :
    (oneWordFile.ruleBook {}).find (Document.ofWords ["x"]).view = [⟨.of "p", 0, 1⟩] := by
  have h := RuleBook.keeps_history {} oneWordFile.ruleChanges
  have hnodup : ((oneWordFile.ruleBook {}).find (Document.ofWords ["x"]).view).Nodup := by
    refine (RuleBook.pairwise_find h.compiled h.nodup_rule_keys).imp fun hmn heq => ?_
    simp [RuleBook.Precedes, heq] at hmn
  have hsize : (Document.ofWords ["x"]).view.size = 1 := rfl
  have horth : (Document.ofWords ["x"]).view.attr 0 (.text .orth) = .text (.of "x") := rfl
  refine List.perm_singleton.mp
    ((List.perm_ext_iff_of_nodup hnodup (List.nodup_singleton _)).mpr fun ⟨key, start, stop⟩ => ?_)
  rw [RuleFile.ruleBook, RuleBook.mem_find h.compiled, ← RuleFile.ruleBook, rules_oneWordFile,
    hsize]
  simp only [List.mem_singleton, exists_eq_left, Pattern.Matches, Fits, Slot.Takes,
    Match.mk.injEq]
  constructor
  · rintro ⟨hlt, hstop, hkey, -⟩
    exact ⟨hkey.symm, by omega, by omega⟩
  · rintro ⟨rfl, rfl, rfl⟩
    exact ⟨Nat.one_pos, le_rfl, rfl, 1, ⟨rfl, by simp [Condition.holds, horth]⟩, rfl⟩

omit [Hashing] in
/-- A pattern and two phrases, under keys that the file does not have in order, are found on the
only word and printed on three lines. -/
theorem run_shows_matches_one_word :
    letI := Hashing.folded
    let a : Arguments := { rules := "rules.json", input := ["x"] }
    let s : Surroundings :=
      { file := .ok oneWordText, complaint := fun _ => "", stdin := .ok "", timing := {} }
    let row (kind key : String) : String := "\x7b\"kind\":\"" ++ kind ++ "\",\"key\":\"" ++ key ++
      "\",\"start\":0,\"end\":1,\"text\":\"x\"\x7d"
    (s.file = .ok oneWordText ∧ RuleFile.read oneWordText = some oneWordFile ∧
      oneWordFile.Accepted a.options.unknown ∧ a.words s.stdin ≠ [] ∧
      TextId.DistinctOn oneWordFile.patternKeys ∧ TextId.DistinctOn oneWordFile.phraseKeys ∧
      TextId.DistinctOn (Document.textsOf (a.words s.stdin))) ∧
    run { a with json := true } s =
      ⟨0, printed [row "pattern" "p", row "phrase" "a", row "phrase" "b"], ""⟩ ∧
    ∃ patternRows patternLines phraseRows phraseLines,
      Presents "pattern" ["p"] ["x"] [⟨.of "p", 0, 1⟩] patternRows patternLines ∧
      Presents "phrase" ["a", "b"] ["x"] [⟨.of "a", 0, 1⟩, ⟨.of "b", 0, 1⟩] phraseRows
        phraseLines ∧
      run { a with json := true } s = ⟨0, printed (patternLines ++ phraseLines), ""⟩ := by
  let _ := Hashing.folded
  intro a s row
  have hwords : a.words s.stdin = ["x"] := by decide +kernel
  have hne : a.words s.stdin ≠ [] := hwords ▸ List.cons_ne_nil _ _
  have hpatternKeys : TextId.DistinctOn oneWordFile.patternKeys := by decide +kernel
  have hphraseKeys : TextId.DistinctOn oneWordFile.phraseKeys := by decide +kernel
  have htexts : TextId.DistinctOn (Document.textsOf (a.words s.stdin)) := by decide +kernel
  obtain ⟨patternRows, patternLines, phraseRows, phraseLines, hruns⟩ :=
    run_shows_matches a s oneWordFile oneWordText rfl read_oneWordText accepted_oneWordFile hne
      hpatternKeys hphraseKeys htexts
  obtain ⟨hpatterns, hphrases, hjson, -⟩ := hruns false false
  rw [hwords] at hpatterns hphrases
  have hfound : (oneWordFile.ruleBook a.options).find (Document.ofWords ["x"]).view =
      [⟨.of "p", 0, 1⟩] :=
    find_ruleBook_oneWordFile
  have hstand : (oneWordFile.phraseBook .orth).find (Document.ofWords ["x"]).view =
      [⟨.of "a", 0, 1⟩, ⟨.of "b", 0, 1⟩] := by
    decide +kernel
  refine ⟨⟨rfl, read_oneWordText, accepted_oneWordFile, hne, hpatternKeys, hphraseKeys, htexts⟩,
    ?_, patternRows, patternLines, phraseRows false, phraseLines false, hfound ▸ hpatterns,
    hstand ▸ hphrases, hjson⟩
  have hpatternRows : patternRowsOf oneWordFile a.options ["x"] = [⟨"p", 0, 1, "x"⟩] := by
    rw [patternRowsOf, hfound]
    decide +kernel
  have hphraseRows : phraseRowsOf oneWordFile a.attr ["x"] =
      [⟨"a", 0, 1, "x"⟩, ⟨"b", 0, 1, "x"⟩] := by
    decide +kernel
  have hrun := run_json (a := { a with json := true }) rfl read_oneWordText accepted_oneWordFile hne
    rfl
  change run { a with json := true } s = ⟨0, printed
    ((patternRowsOf oneWordFile a.options (a.words s.stdin)).map _ ++
      (phraseRowsOf oneWordFile a.attr (a.words s.stdin)).map _), ""⟩ at hrun
  rw [hrun, hwords, hpatternRows, hphraseRows]
  decide +kernel

/-- A word, and another one of the same hash. -/
def word : String :=
  "BÀ`!@@ACÀ`!@@A"

def otherWord : String :=
  "ԸS懠fvոS懠fv"

/-- A rule file with the word as a phrase. -/
def wordText : String :=
  "\x7b\"phrases\":\x7b\"P\":[\"" ++ word ++ "\"]\x7d\x7d"

def wordFile : RuleFile where
  phrases := [("P", [word])]

omit [Hashing] in
theorem read_wordText : RuleFile.read wordText = some wordFile := by
  have houtline : JsonOutline.read wordText = some (.object
      [(("phrases".toList).map .char, .object [([.char 'P'],
        .array [.string (word.toList.map .char)])])]) := by
    with_unfolding_all rfl
  rw [RuleFile.read, houtline]
  rfl

omit [Hashing] in
/-- Where two words of the input share a hash, the second one is shown as the first. -/
theorem run_shows_first_of_colliding_words :
    letI := Hashing.folded
    let a : Arguments := { rules := "rules.json", json := true, input := [word, otherWord] }
    let s : Surroundings :=
      { file := .ok wordText, complaint := fun _ => "", stdin := .ok "", timing := {} }
    let row (start stop text : String) : String :=
      "\x7b\"kind\":\"phrase\",\"key\":\"P\",\"start\":" ++ start ++ ",\"end\":" ++ stop ++
        ",\"text\":\"" ++ text ++ "\"\x7d"
    (RuleFile.read wordText = some wordFile ∧ wordFile.Accepted a.options.unknown ∧
      a.words s.stdin = [word, otherWord]) ∧
    run a s = ⟨0, printed [row "0" "1" word, row "1" "2" word], ""⟩ ∧
    run a s ≠ ⟨0, printed [row "0" "1" word, row "1" "2" otherWord], ""⟩ := by
  let _ := Hashing.folded
  intro a s row
  have hwords : a.words s.stdin = [word, otherWord] := by decide +kernel
  have hrows : phraseRowsOf wordFile a.attr [word, otherWord] =
      [⟨"P", 0, 1, word⟩, ⟨"P", 1, 2, word⟩] := by
    decide +kernel
  have haccepted : wordFile.Accepted a.options.unknown := ⟨by simp [wordFile], by decide +kernel⟩
  have hnone : patternRowsOf wordFile a.options [word, otherWord] = [] :=
    patternRowsOf_nil (RuleFile.sorted_of_read read_wordText) (by decide) haccepted rfl
  have hrun : run a s = ⟨0, printed [row "0" "1" word, row "1" "2" word], ""⟩ := by
    rw [run_json rfl read_wordText haccepted (hwords ▸ List.cons_ne_nil _ _) rfl, hwords, hnone,
      hrows]
    decide +kernel
  refine ⟨⟨read_wordText, haccepted, hwords⟩, hrun, ?_⟩
  rw [hrun]
  decide +kernel

end CommandLine

end SpanRules
