import SpanRules.RuleBook.Basic
import SpanRules.Text.Quoted

/-! # Finding the matches of a book of rules -/

namespace SpanRules.RuleBook

variable [Hashing] {σ : Type}

/-- The match of a window, under the key of its rule. -/
def matchOf (b : RuleBook σ) (w : Window) : Option Match :=
  b.automaton.keys[w.rule]?.map (⟨·, w.start, w.stop⟩)

/-- All matches in order, and what it took to find them. -/
def measure (b : RuleBook σ) (view : TokenView) : List Match × Effort :=
  let (windows, effort) := b.automaton.search view b.options.prescan
  (windows.filterMap b.matchOf, effort)

/-- All matches in order. -/
def find (b : RuleBook σ) (view : TokenView) : List Match :=
  (b.measure view).1

/-- The text and the handler of a key that has one. -/
def handlerOf (b : RuleBook σ) (id : TextId) : Option (String × Handler σ) :=
  (b.rule? id).bind fun r => r.handler.map ((b.lexicon.get? id).getD "?", ·)

/-- Finds the matches and calls their handlers. -/
def run (b : RuleBook σ) (document : Document) (world : σ) : Outcome Fault (List Match) σ :=
  dispatch b.handlerOf (b.find document.view) document world

/-- Finds the matches, calls their handlers and tells what the search took. -/
def runMeasured (b : RuleBook σ) (document : Document) (world : σ) :
    Outcome Fault (List Match × Effort) σ :=
  let (found, effort) := b.measure document.view
  let out := dispatch b.handlerOf found document world
  ⟨out.result.map fun found => (found, effort), out.document, out.world⟩

def pipe (b : RuleBook σ) : List Document → σ → PipeOutcome σ :=
  pipeWith b.run

/-- The word for a policy in summaries. -/
def policyWord : UnknownPolicy → String
  | .refuse => "Error"
  | .ignore => "Ignore"

/-- The word for a truth value in summaries. -/
def truthWord (b : Bool) : String :=
  if b then "true" else "false"

/-- A book in one line: its options, its keys in order and the number of states. -/
def summary (b : RuleBook σ) : String :=
  let keys := b.rules.map fun r => quoted ((b.lexicon.get? r.key).getD "?")
  "Matcher \x7b options: Options \x7b unknown_attributes: " ++ policyWord b.options.unknown ++
    ", trigger_scan: " ++ truthWord b.options.prescan ++ " \x7d, rules: [" ++
    ", ".intercalate keys ++ "], states: " ++ printInt b.automaton.states.size ++ " \x7d"

end SpanRules.RuleBook
