import SpanRules.Document.Basic
import SpanRules.Fault

/-! # Matches and their handlers -/

namespace SpanRules

/-- A match of the rule of a key on the tokens from `start` to before `stop`. -/
structure Match where
  key : TextId
  start : Nat
  stop : Nat
deriving DecidableEq, Repr

namespace Match

def size (m : Match) : Nat :=
  m.stop - m.start

def isEmpty (m : Match) : Bool :=
  m.stop = m.start

end Match

/-- What a handler or a run leaves behind: a result, the document and the surroundings. -/
structure Outcome (ε α σ : Type) where
  result : Except ε α
  document : Document
  world : σ

/-- What is done at a match: from the document, the index of the match, all matches and the
surroundings to changed ones, or to a failure with a reason. -/
abbrev Handler (σ : Type) :=
  Document → Nat → List Match → σ → Outcome String Unit σ

variable {σ : Type}

/-- Calls the handlers of the matches in order, the first of which has the given index, up to the
first failure. Each sees the document as the one before left it, and the list of all matches as
it was found. -/
def dispatchFrom (handlerOf : TextId → Option (String × Handler σ)) (all : List Match)
    (index : Nat) : List Match → Document → σ → Outcome Fault Unit σ
  | [], document, world => ⟨.ok (), document, world⟩
  | m :: rest, document, world =>
    match handlerOf m.key with
    | none => dispatchFrom handlerOf all (index + 1) rest document world
    | some (key, handler) =>
      match handler document index all world with
      | ⟨.error source, document, world⟩ => ⟨.error (.callback key index source), document, world⟩
      | ⟨.ok (), document, world⟩ =>
        dispatchFrom handlerOf all (index + 1) rest document world

/-- Calls the handlers of matches and gives the matches back. -/
def dispatch (handlerOf : TextId → Option (String × Handler σ)) (found : List Match)
    (document : Document) (world : σ) : Outcome Fault (List Match) σ :=
  let out := dispatchFrom handlerOf found 0 found document world
  ⟨out.result.map fun _ => found, out.document, out.world⟩

/-- What a run over several documents leaves behind. -/
structure PipeOutcome (σ : Type) where
  result : Except Fault (List (List Match))
  documents : List Document
  world : σ

/-- Runs over documents in order, up to the first fault. Later documents stay as they are. -/
def pipeWith (run : Document → σ → Outcome Fault (List Match) σ) :
    List Document → σ → PipeOutcome σ
  | [], world => ⟨.ok [], [], world⟩
  | d :: rest, world =>
    match run d world with
    | ⟨.error fault, d, world⟩ => ⟨.error fault, d :: rest, world⟩
    | ⟨.ok found, d, world⟩ =>
      let out := pipeWith run rest world
      ⟨out.result.map (found :: ·), d :: out.documents, out.world⟩

end SpanRules
