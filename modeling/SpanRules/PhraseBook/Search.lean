import SpanRules.PhraseBook.Basic

/-! # Finding the matches of a book of phrases -/

namespace SpanRules.PhraseBook

variable [Hashing] {σ : Type}

/-- The matches from `start` on, walking down the trie from a node with the token at `pos`, with
`left` tokens before the end. -/
def walk (b : PhraseBook σ) (view : TokenView) (start node pos : Nat) : Nat → List Match
  | 0 => []
  | left + 1 =>
    let next := (view.attr pos (.text b.attr)).textId?.bind (b.trie.child? node)
    match next with
    | none => []
    | some child =>
      (b.trie.terminalsAt child).map (⟨·, start, pos + 1⟩) ++
        b.walk view start child (pos + 1) left

/-- All matches by start and then by stop; those of one window in the order of the keys at the
node. -/
def find (b : PhraseBook σ) (view : TokenView) : List Match :=
  (List.range view.size).flatMap fun start => b.walk view start 0 start (view.size - start)

/-- The text and the handler of a key that has one. -/
def handlerOf (b : PhraseBook σ) (id : TextId) : Option (String × Handler σ) :=
  (b.rules.find? id).bind fun r => r.handler.map ((b.lexicon.get? id).getD "?", ·)

/-- Finds the matches and calls their handlers. -/
def run (b : PhraseBook σ) (document : Document) (world : σ) : Outcome Fault (List Match) σ :=
  dispatch b.handlerOf (b.find document.view) document world

def pipe (b : PhraseBook σ) : List Document → σ → PipeOutcome σ :=
  pipeWith b.run

/-- The word for a text attribute in summaries. -/
def attributeWord : TextAttribute → String
  | .orth => "Orth"
  | .lower => "Lower"
  | .norm => "Norm"
  | .baseForm => "Lemma"
  | .pos => "Pos"
  | .tag => "Tag"
  | .dep => "Dep"
  | .entityType => "EntType"
  | .shape => "Shape"
  | .opening => "Prefix"
  | .ending => "Suffix"

/-- A book in one line: the attribute it compares, and the numbers of keys and of nodes. -/
def summary (b : PhraseBook σ) : String :=
  "PhraseMatcher \x7b attr: " ++ attributeWord b.attr ++ ", rules: " ++ printInt b.size ++
    ", nodes: " ++ printInt b.trie.size ++ " \x7d"

end SpanRules.PhraseBook
