import SpanRules.Table
import SpanRules.Text.Id

/-! # Lexicons

A lexicon finds the text behind an identity. It only grows, and it never holds the empty text,
whose identity it knows without being told.
-/

namespace SpanRules

/-- The texts that can be found by their identities. -/
structure Lexicon where
  texts : Table TextId String := .empty

namespace Lexicon

section Entering

variable [Hashing]

/-- Enters a text, if it is not empty and there is none of its identity. -/
def add (l : Lexicon) (text : String) : Lexicon :=
  if text = "" ∨ l.texts.contains (TextId.of text) then l
  else ⟨l.texts.insert (TextId.of text) text⟩

def addAll (l : Lexicon) (texts : List String) : Lexicon :=
  texts.foldl add l

/-- A text of the same identity has been entered. -/
def contains (l : Lexicon) (text : String) : Bool :=
  TextId.of text = TextId.empty || l.texts.contains (TextId.of text)

end Entering

/-- The text of an identity. That of the empty text is always found. -/
def get? (l : Lexicon) (id : TextId) : Option String :=
  if id = TextId.empty then some "" else l.texts.find? id

def size (l : Lexicon) : Nat :=
  l.texts.size

def isEmpty (l : Lexicon) : Bool :=
  l.texts.isEmpty

@[simp] theorem get?_empty (l : Lexicon) : l.get? TextId.empty = some "" := by
  simp [get?]

end Lexicon

end SpanRules
