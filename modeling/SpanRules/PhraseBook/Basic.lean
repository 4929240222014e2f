import SpanRules.Match
import SpanRules.Pattern.Reader
import SpanRules.PhraseBook.Trie
import SpanRules.Text.Lexicon

/-! # Books of phrases

A book holds phrases under keys and finds where their tokens stand in a row, comparing one text
attribute.
-/

namespace SpanRules

/-- Phrases under a key, in the order of their entry, and what is done at a match. -/
structure PhraseRule (σ : Type) where
  phrases : List (List TextId)
  handler : Option (Handler σ)

/-- Phrases under keys, and the trie of them all. -/
structure PhraseBook (σ : Type) where
  /-- The attribute that is compared. -/
  attr : TextAttribute := .orth
  /-- The texts of the keys. -/
  lexicon : Lexicon := {}
  trie : Trie := {}
  rules : Table TextId (PhraseRule σ) := .empty

/-- The texts of the tokens of a phrase. It has to have tokens, each with a text. -/
def phraseOf (attr : TextAttribute) (view : TokenView) : Except Fault (List TextId) :=
  if view.size = 0 then .error (.invalidPattern .emptyPhrase)
  else collect (fun index =>
    match (view.attr index (.text attr)).textId? with
    | some id => .ok id
    | none => .error (.invalidPattern (.notAText index attr))) (List.range view.size)

namespace PhraseBook

variable [Hashing] {σ : Type}

/-- An empty book that compares an attribute, which has to be a text. -/
def comparing : Attribute → Except Fault (PhraseBook σ)
  | .text attr => .ok { attr }
  | other => .error (.invalidPattern (.notATextAttribute other))

def size (b : PhraseBook σ) : Nat :=
  b.rules.size

def isEmpty (b : PhraseBook σ) : Bool :=
  b.rules.isEmpty

def contains (b : PhraseBook σ) (key : String) : Bool :=
  b.rules.contains (.of key)

/-- The text of a key that has phrases. -/
def keyText? (b : PhraseBook σ) (id : TextId) : Option String :=
  (b.rules.find? id).bind fun _ => b.lexicon.get? id

/-- The handler and the phrases under a key. -/
def get (b : PhraseBook σ) (key : String) :
    Except Fault (Option (Handler σ) × List (List TextId)) :=
  match b.rules.find? (.of key) with
  | some r => .ok (r.handler, r.phrases)
  | none => .error (.notFound key)

/-- Enters phrases under a key. A known key keeps its phrases in front of the new ones and loses
its handler to the new one. -/
def add (b : PhraseBook σ) (key : String) (handler : Option (Handler σ))
    (phrases : List TokenView) : Except Fault (PhraseBook σ) :=
  match collect (phraseOf b.attr) phrases with
  | .error fault => .error fault
  | .ok sequences =>
    if sequences.isEmpty then .error (.invalidPattern (.noPhrases key))
    else
      let known := match b.rules.find? (.of key) with
        | some r => r.phrases
        | none => []
      .ok { b with
        lexicon := b.lexicon.add key
        trie := b.trie.insertAll (.of key) sequences
        rules := b.rules.insert (.of key) ⟨known ++ sequences, handler⟩ }

/-- Deletes the phrases of a key. -/
def remove (b : PhraseBook σ) (key : String) : Except Fault (PhraseBook σ) :=
  if b.rules.contains (.of key) then
    .ok { b with trie := b.trie.forget (.of key), rules := b.rules.erase (.of key) }
  else .error (.notFound key)

end PhraseBook

inductive PhraseChange (σ : Type)
  | add (key : String) (handler : Option (Handler σ)) (phrases : List TokenView)
  | remove (key : String)

namespace PhraseBook

variable [Hashing] {σ : Type}

/-- Makes a change, or refuses it. -/
def change (b : PhraseBook σ) : PhraseChange σ → Except Fault (PhraseBook σ)
  | .add key handler phrases => b.add key handler phrases
  | .remove key => b.remove key

/-- Makes a change, or leaves the book as it is when the change is refused. -/
def attempt (b : PhraseBook σ) (c : PhraseChange σ) : PhraseBook σ :=
  match b.change c with
  | .ok b => b
  | .error _ => b

/-- The book after changes in order, refused ones included. -/
def history (attr : TextAttribute) (changes : List (PhraseChange σ)) : PhraseBook σ :=
  changes.foldl attempt { attr }

end PhraseBook

end SpanRules
