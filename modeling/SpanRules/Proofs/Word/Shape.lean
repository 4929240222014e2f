import Mathlib.Data.List.SplitBy
import SpanRules.Word.Features

/-! # Shapes as runs of symbols

The symbols of a word fall into runs of equal ones, and its shape keeps the first four symbols of
each run. A run never disappears, so what is left out brings no two runs together: the runs of a
shape are those of the word, cut.
-/

namespace SpanRules

variable {c symbol : Char} {last : Option Char} {symbols rest : List Char} {count limit : Nat}

/-! ## Symbols -/

/-- The symbol of the class of a character: one for upper case, one for any other letter, one for
any other digit. A character of no class has itself. -/
inductive ClassSymbol (c : Char) : Char → Prop
  | upper (hupper : Unicode.isUppercase c = true) : ClassSymbol c 'X'
  | letter (hupper : ¬Unicode.isUppercase c = true)
      (hletter : Unicode.isLowercase c = true ∨ Unicode.isAlphabetic c = true) : ClassSymbol c 'x'
  | digit (hupper : ¬Unicode.isUppercase c = true)
      (hletter : ¬(Unicode.isLowercase c = true ∨ Unicode.isAlphabetic c = true))
      (hdigit : c.isDigit = true) : ClassSymbol c 'd'
  | other (hupper : ¬Unicode.isUppercase c = true)
      (hletter : ¬(Unicode.isLowercase c = true ∨ Unicode.isAlphabetic c = true))
      (hdigit : ¬c.isDigit = true) : ClassSymbol c c

theorem classSymbol_shapeSymbol (c : Char) : ClassSymbol c (shapeSymbol c) := by
  rw [shapeSymbol]
  split_ifs with hupper hletter hdigit
  · exact .upper hupper
  · exact .letter hupper (Bool.or_eq_true_iff.mp hletter)
  · exact .digit hupper (mt Bool.or_eq_true_iff.mpr hletter) hdigit
  · exact .other hupper (mt Bool.or_eq_true_iff.mpr hletter) hdigit

theorem shapeSymbol_eq_iff : shapeSymbol c = symbol ↔ ClassSymbol c symbol := by
  constructor
  · rintro rfl
    exact classSymbol_shapeSymbol c
  · intro h
    cases h with
    | upper hupper => simp [shapeSymbol, hupper]
    | letter hupper hletter => simp [shapeSymbol, hupper, hletter]
    | digit hupper hletter hdigit => simp [shapeSymbol, hupper, hletter, hdigit]
    | other hupper hletter hdigit => simp [shapeSymbol, hupper, hletter, hdigit]

/-- The symbols of the characters of a word. -/
def symbolsOf (word : String) : List Char :=
  word.toList.map shapeSymbol

/-! ## Runs -/

/-- The runs of equal symbols, each as long as it can be. -/
def runsOf (symbols : List Char) : List (List Char) :=
  symbols.splitBy (· == ·)

/-- The first symbols of each run, as many as the limit allows. -/
def cutRuns (limit : Nat) (symbols : List Char) : List (List Char) :=
  (runsOf symbols).map (·.take limit)

@[simp] theorem cutRuns_nil : cutRuns limit [] = [] :=
  rfl

/-- A run ends where another symbol follows. -/
theorem runsOf_run (hcount : 0 < count) (hrest : rest.head? ≠ some symbol) :
    runsOf (List.replicate count symbol ++ rest) =
      List.replicate count symbol :: runsOf rest := by
  have hends : ∀ x ∈ (List.replicate count symbol).getLast?, ∀ y ∈ rest.head?,
      (x == y) = false := by
    intro x hx y hy
    obtain rfl : x = symbol := List.eq_of_mem_replicate (List.mem_of_mem_getLast? hx)
    rw [beq_eq_false_iff_ne]
    rintro rfl
    exact hrest hy
  have hne : List.replicate count symbol ≠ [] := mt (List.replicate_eq_nil_iff symbol).mp hcount.ne'
  have hchain : (List.replicate count symbol).IsChain fun x y => (x == y) = true :=
    List.isChain_replicate_of_rel count (beq_self_eq_true symbol)
  rw [runsOf, List.splitBy_append hends, List.splitBy_of_isChain hne hchain]
  rfl

theorem cutRuns_run (hcount : 0 < count) (hrest : rest.head? ≠ some symbol) :
    cutRuns limit (List.replicate count symbol ++ rest) =
      List.replicate (min count limit) symbol :: cutRuns limit rest := by
  rw [cutRuns, runsOf_run hcount hrest, List.map_cons, List.take_replicate, Nat.min_comm]
  rfl

/-- Symbols come run by run: there are none, or a run and what follows it with another symbol. -/
@[elab_as_elim]
theorem runs_induction {motive : List Char → Prop} (nil : motive [])
    (run : ∀ symbol count rest, 0 < count → rest.head? ≠ some symbol → motive rest →
      motive (List.replicate count symbol ++ rest))
    (symbols : List Char) : motive symbols := by
  suffices h : motive symbols ∧ ∀ symbol count, 0 < count →
      motive (List.replicate count symbol ++ symbols) from h.1
  induction symbols with
  | nil =>
      refine ⟨nil, ?_⟩
      intro symbol count hcount
      exact run symbol count [] hcount (by simp) nil
  | cons next rest ih =>
      have hnext : motive (next :: rest) := ih.2 next 1 Nat.one_pos
      refine ⟨hnext, ?_⟩
      intro symbol count hcount
      by_cases hsame : next = symbol
      · rw [hsame, List.append_cons, ← List.replicate_succ']
        exact ih.2 symbol (count + 1) (Nat.succ_pos count)
      · exact run symbol count (next :: rest) hcount (by simpa using hsame) hnext

/-- Cutting runs leaves the first symbol. -/
theorem head?_flatten_cutRuns (hlimit : 0 < limit) :
    (cutRuns limit symbols).flatten.head? = symbols.head? := by
  induction symbols using runs_induction with
  | nil => rfl
  | run symbol count rest hcount hrest =>
      have hcut : 0 < min count limit := lt_min hcount hlimit
      rw [cutRuns_run hcount hrest, List.flatten_cons]
      simp [List.head?_append, List.head?_replicate, hcut.ne', hcount.ne']

/-- Runs that have been cut are still as long as they can be, since each starts with its symbol. -/
theorem runsOf_flatten_cutRuns (hlimit : 0 < limit) :
    runsOf (cutRuns limit symbols).flatten = cutRuns limit symbols := by
  induction symbols using runs_induction with
  | nil => rfl
  | run symbol count rest hcount hrest ih =>
      have hcut : 0 < min count limit := lt_min hcount hlimit
      have hhead : (cutRuns limit rest).flatten.head? ≠ some symbol := by
        rwa [head?_flatten_cutRuns hlimit]
      rw [cutRuns_run hcount hrest, List.flatten_cons, runsOf_run hcut hhead, ih]

theorem length_le_of_mem_cutRuns {run : List Char} (h : run ∈ cutRuns limit symbols) :
    run.length ≤ limit := by
  obtain ⟨whole, -, rfl⟩ := List.mem_map.mp h
  exact List.length_take_le limit whole

/-! ## Equal symbols in a row -/

section Rows

variable {length : Nat}

/-- A row of equal symbols that is longer than the run it starts in has no symbol of that run. -/
theorem eq_zero_of_replicate_prefix (hrest : rest.head? ≠ some symbol) (hlength : count < length)
    (h : List.replicate length c <+: List.replicate count symbol ++ rest) : count = 0 := by
  cases count with
  | zero => rfl
  | succ count =>
      exfalso
      obtain ⟨more, rfl⟩ := Nat.exists_eq_add_of_lt hlength
      obtain rfl : c = symbol := by
        rw [List.replicate_succ, List.replicate_succ, List.cons_append] at h
        exact (List.cons_prefix_cons.mp h).1
      rw [Nat.add_assoc, ← List.replicate_append_replicate, List.prefix_append_right_inj] at h
      obtain ⟨back, hback⟩ := h
      rw [← hback] at hrest
      exact hrest rfl

/-- A row of equal symbols that is longer than the first run stands behind it. -/
theorem infix_of_replicate_infix_append (hrest : rest.head? ≠ some symbol)
    (hlength : count < length)
    (h : List.replicate length c <:+: List.replicate count symbol ++ rest) :
    List.replicate length c <:+: rest := by
  obtain ⟨front, back, heq⟩ := h
  rw [List.append_assoc] at heq
  rcases List.append_eq_append_iff.mp heq with ⟨inside, hrun, hrow⟩ | ⟨between, -, hbehind⟩
  · obtain ⟨hsum, -, hinside⟩ := List.replicate_eq_append_iff.mp hrun
    rw [hinside] at hrow
    have hzero : inside.length = 0 :=
      eq_zero_of_replicate_prefix hrest (by omega) ⟨back, hrow⟩
    rw [hzero, List.replicate_zero, List.nil_append] at hrow
    exact ⟨[], back, hrow⟩
  · exact ⟨between, back, by rw [hbehind, List.append_assoc]⟩

/-- A row of equal symbols is part of one run. -/
theorem exists_run_of_replicate_infix (hlength : 0 < length)
    (h : List.replicate length c <:+: symbols) : ∃ run ∈ runsOf symbols, length ≤ run.length := by
  induction symbols using runs_induction with
  | nil =>
      have hnil : length = 0 := (List.replicate_eq_nil_iff c).mp (List.infix_nil.mp h)
      exact absurd hnil hlength.ne'
  | run symbol count rest hcount hrest ih =>
      rw [runsOf_run hcount hrest]
      by_cases hfits : length ≤ count
      · exact ⟨_, List.mem_cons_self, by simpa using hfits⟩
      · obtain ⟨run, hrun, hle⟩ :=
          ih (infix_of_replicate_infix_append hrest (Nat.lt_of_not_le hfits) h)
        exact ⟨run, List.mem_cons_of_mem _ hrun, hle⟩

end Rows

/-! ## Shapes -/

/-- A symbol that continues a run is written while the run is short. -/
theorem shapeAfter_cons_same (h : shapeSymbol c = symbol) :
    shapeAfter (some symbol) count (c :: rest) =
      (if count < shapeRunLimit then [symbol] else []) ++
        shapeAfter (some symbol) (count + 1) rest := by
  simp only [shapeAfter, h, if_true]
  by_cases hshort : count < shapeRunLimit
  · rw [if_pos hshort, if_pos (Nat.succ_le_of_lt hshort)]
    rfl
  · rw [if_neg hshort, if_neg (mt Nat.lt_of_succ_le hshort)]
    rfl

/-- A symbol that starts a run is written. -/
theorem shapeAfter_cons_other (h : some (shapeSymbol c) ≠ last) :
    shapeAfter last count (c :: rest) =
      shapeSymbol c :: shapeAfter (some (shapeSymbol c)) 1 rest := by
  simp [shapeAfter, h, shapeRunLimit]

theorem replicate_min_succ : List.replicate (min (count + 1) limit) symbol =
    List.replicate (min count limit) symbol ++ if count < limit then [symbol] else [] := by
  split_ifs with hshort
  · rw [Nat.min_eq_left hshort, Nat.min_eq_left hshort.le, List.replicate_succ']
  · rw [Nat.min_eq_right (by omega), Nat.min_eq_right (by omega), List.append_nil]

/-- What has been written of a run, with what the rest of the word writes, is the run and the
symbols of the rest, cut. A character that continues the run moves over to it, any other ends
it. -/
theorem replicate_append_shapeAfter (hcount : 0 < count) :
    List.replicate (min count shapeRunLimit) symbol ++ shapeAfter (some symbol) count rest =
      (cutRuns shapeRunLimit
        (List.replicate count symbol ++ rest.map shapeSymbol)).flatten := by
  induction rest generalizing symbol count with
  | nil =>
      rw [List.map_nil, cutRuns_run hcount (by simp)]
      simp [shapeAfter]
  | cons c rest ih =>
      rw [List.map_cons]
      by_cases hsame : shapeSymbol c = symbol
      · rw [shapeAfter_cons_same hsame, ← List.append_assoc, ← replicate_min_succ,
          ih (Nat.succ_pos count), hsame, List.append_cons, ← List.replicate_succ']
      · have hother : some (shapeSymbol c) ≠ some symbol := mt Option.some.inj hsame
        have hhead : (shapeSymbol c :: rest.map shapeSymbol).head? ≠ some symbol := hother
        rw [shapeAfter_cons_other hother, cutRuns_run hcount hhead, List.flatten_cons]
        exact congrArg (List.replicate (min count shapeRunLimit) symbol ++ ·) (ih Nat.one_pos)

theorem toList_shape (word : String) :
    (Features.of word).shape.toList = (cutRuns shapeRunLimit (symbolsOf word)).flatten := by
  rw [Features.of, String.toList_ofList, shapeOf, symbolsOf]
  cases word.toList with
  | nil => rfl
  | cons c rest =>
      rw [shapeAfter_cons_other (Option.some_ne_none _)]
      exact replicate_append_shapeAfter Nat.one_pos

/-- The runs of a shape are those of the word, cut. -/
theorem runsOf_shape (word : String) :
    runsOf (Features.of word).shape.toList = cutRuns shapeRunLimit (symbolsOf word) := by
  rw [toList_shape, runsOf_flatten_cutRuns (by decide)]

theorem shape_eq_iff {v w : String} : (Features.of v).shape = (Features.of w).shape ↔
    cutRuns shapeRunLimit (symbolsOf v) = cutRuns shapeRunLimit (symbolsOf w) := by
  constructor
  · intro h
    rw [← runsOf_shape, ← runsOf_shape, h]
  · intro h
    apply String.toList_injective
    rw [toList_shape, toList_shape, h]

theorem not_replicate_infix_shape {word : String} (hcount : shapeRunLimit < count) :
    ¬List.replicate count symbol <:+: (Features.of word).shape.toList := by
  intro h
  obtain ⟨run, hrun, hle⟩ := exists_run_of_replicate_infix (Nat.zero_lt_of_lt hcount) h
  rw [runsOf_shape] at hrun
  exact absurd (hle.trans (length_le_of_mem_cutRuns hrun)) (Nat.not_le_of_lt hcount)

/-- The symbol of a character is `X` for upper case, `x` for any other letter, `d` for any other
digit, and otherwise the character itself. The shape of a word puts together the first four
symbols, or all if there are fewer, of each run of equal ones. So two words have one shape if and
only if their runs agree once they are cut to four, and no shape has five equal symbols in a
row. -/
theorem shape_keeps_runs :
    (∀ c symbol, shapeSymbol c = symbol ↔ ClassSymbol c symbol) ∧
    (∀ word, (Features.of word).shape.toList =
      (runsOf (symbolsOf word)).flatMap (·.take 4)) ∧
    (∀ v w, (Features.of v).shape = (Features.of w).shape ↔
      (runsOf (symbolsOf v)).map (·.take 4) = (runsOf (symbolsOf w)).map (·.take 4)) ∧
    ∀ word symbol, ¬List.replicate 5 symbol <:+: (Features.of word).shape.toList := by
  refine ⟨?_, ?_, ?_, ?_⟩
  · intro c symbol
    exact shapeSymbol_eq_iff
  · intro word
    rw [toList_shape, cutRuns, ← List.flatMap_def]
    rfl
  · intro v w
    exact shape_eq_iff
  · intro word symbol
    exact not_replicate_infix_shape (by decide)

example : (Features.of "Mississippi-----C3PO").shape = "Xxxxx----XdXX" := by decide +kernel

end SpanRules
