import SpanRules.CommandLine.Style
import SpanRules.PhraseBook.Search
import SpanRules.RuleBook.Search

/-! # Reports of a search

What a search found is shown to people as a report with sections, or to programs as one JSON
object a match.
-/

namespace SpanRules.CommandLine

/-- The rules and the phrases of a rule file. -/
structure Books where
  rules : RuleBook Unit
  phrases : PhraseBook Unit

/-- The matches in a document, and what it took to find them. -/
structure Findings where
  document : Document
  ruleMatches : List Match
  phraseMatches : List Match
  effort : Effort

variable [Hashing]

/-- Searches a document for rules and phrases. -/
def Books.search (b : Books) (document : Document) : Findings :=
  let (ruleMatches, effort) := b.rules.measure document.view
  { document, ruleMatches, effort, phraseMatches := b.phrases.find document.view }

/-- A match as it is shown. -/
structure Row where
  key : String
  start : Nat
  stop : Nat
  text : String
deriving DecidableEq, Repr

/-- The row of a match, with a function that finds the text of its key. -/
def Row.of (keyText? : TextId → Option String) (d : Document) (m : Match) : Row where
  key := (keyText? m.key).getD "?"
  start := m.start
  stop := m.stop
  text := d.spanText m.start m.stop

namespace Findings

def ruleRows (f : Findings) (b : Books) : List Row :=
  f.ruleMatches.map (.of b.rules.keyText? f.document)

def phraseRows (f : Findings) (b : Books) : List Row :=
  f.phraseMatches.map (.of b.phrases.keyText? f.document)

end Findings

/-- A row as a JSON object. -/
def Row.toJson (kind : String) (r : Row) : Json :=
  .object [("kind", .string kind), ("key", .string r.key),
    ("start", .number (.integer r.start)), ("end", .number (.integer r.stop)),
    ("text", .string r.text)]

/-- The matches as JSON objects, those of rules first. -/
def Findings.jsonLines (f : Findings) (b : Books) : List String :=
  (f.ruleRows b).map (fun r => (r.toJson "pattern").print) ++
    (f.phraseRows b).map fun r => (r.toJson "phrase").print

/-- How long a search took, in nanoseconds. -/
structure Timing where
  total : Nat := 0
  simulation : Nat := 0
  callbacks : Nat := 0

/-- A quotient by a power of ten, with the digits behind the point that are needed. -/
def printScaled (n power : Nat) : String :=
  let digits := Nat.toDigits 10 (n % Nat.pow 10 power)
  let padded := List.replicate (power - digits.length) '0' ++ digits
  let shown := (padded.reverse.dropWhile (· = '0')).reverse
  printInt (n / Nat.pow 10 power : Nat) ++
    (if n % Nat.pow 10 power = 0 then "" else "." ++ String.ofList shown)

/-- A duration in the largest unit that fits. -/
def printDuration (nanoseconds : Nat) : String :=
  if 1000000000 ≤ nanoseconds then printScaled nanoseconds 9 ++ "s"
  else if 1000000 ≤ nanoseconds then printScaled nanoseconds 6 ++ "ms"
  else if 1000 ≤ nanoseconds then printScaled nanoseconds 3 ++ "µs"
  else printInt nanoseconds ++ "ns"

section Report

variable (on : Bool)

/-- The heading of a section, after an empty line. -/
def heading (title : String) : List String :=
  ["", Style.gray.paint on ("━━━ " ++ title ++ " ━━━")]

/-- A row with its number. -/
def Row.line (index : Nat) (r : Row) : String :=
  "  " ++ " ".intercalate
    [Style.gray.paint on ("[" ++ printInt index ++ "]"),
     Style.bold.paint on (Style.blue.paint on r.key),
     Style.dim.paint on "│",
     Style.yellow.paint on ("span " ++ printInt r.start ++ ".." ++ printInt r.stop),
     Style.green.paint on ("\"" ++ r.text ++ "\"")]

/-- Rows with their numbers, or a line that says that there are none. -/
def rowLines (rows : List Row) : List String :=
  if rows.isEmpty then [Style.dim.paint on "  No matches"]
  else rows.zipIdx.map fun r => r.1.line on r.2

/-- What the search did. -/
def Effort.lines (e : Effort) : List String :=
  let skipped := e.total - e.active
  let counter (name : String) (n : Nat) : String :=
    Style.dim.paint on name ++ " " ++ Style.yellow.paint on (printInt n)
  ["  " ++ Style.blue.paint on "Patterns active:" ++ " " ++
      Style.green.paint on (printInt e.active) ++ "/" ++ printInt e.total ++ "  " ++
      (if 0 < skipped then
        Style.dim.paint on ("(" ++ printInt skipped ++ " skipped by trigger scan)")
      else ""),
   "  " ++ "  ".intercalate
      [counter "starts:" e.starts, counter "steps:" e.steps, counter "states:" e.visited,
       counter "accepts:" e.accepts]]

/-- How long the search took. -/
def Timing.line (t : Timing) : String :=
  "  Total: " ++ Style.green.paint on (printDuration t.total) ++
    "  │  Simulation: " ++ Style.cyan.paint on (printDuration t.simulation) ++
    "  │  Callbacks: " ++ Style.dim.paint on (printDuration t.callbacks)

/-- The report of a search. -/
def Findings.reportLines (f : Findings) (b : Books) (timing : Timing) : List String :=
  let title := "⚙  Matching: \"" ++ f.document.text ++ "\" (" ++ printInt f.document.size ++
    " tokens)"
  ["", Style.bold.paint on (Style.cyan.paint on title)] ++
  heading on "Pattern matches" ++
  (if b.rules.isEmpty then [Style.dim.paint on "  No pattern rules loaded"]
   else rowLines on (f.ruleRows b)) ++
  (if b.phrases.isEmpty then []
   else heading on ("Phrase matches (" ++ b.phrases.attr.name ++ ")") ++
     rowLines on (f.phraseRows b)) ++
  heading on "Engine" ++ Effort.lines on f.effort ++
  heading on "Timing" ++ [Timing.line on timing, ""]

end Report

end SpanRules.CommandLine
