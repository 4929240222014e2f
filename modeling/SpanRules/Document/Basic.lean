import SpanRules.Attribute.Basic
import SpanRules.Text.Fields
import SpanRules.Text.Lexicon
import SpanRules.Word.Features

/-! # Documents

A document is a sequence of tokens beside the lexicon of their texts. A token holds identities;
its texts are read back through the lexicon.
-/

namespace SpanRules

/-- A token. Its spelling determines all but the five tags, from `baseForm` to `entityType`,
which are empty until someone sets them; the norm and the flags can be set too. -/
structure Token where
  orth : TextId
  lower : TextId
  norm : TextId
  baseForm : TextId
  pos : TextId
  tag : TextId
  dep : TextId
  entityType : TextId
  shape : TextId
  opening : TextId
  ending : TextId
  length : Nat
  flags : FlagSet
deriving DecidableEq, Repr

/-- An attribute of a token that can be set. -/
inductive TagField
  | norm | baseForm | pos | tag | dep | entityType
deriving DecidableEq, Repr

/-- The attribute that a field sets. -/
def TagField.sets : TagField → TextAttribute
  | .norm => .norm
  | .baseForm => .baseForm
  | .pos => .pos
  | .tag => .tag
  | .dep => .dep
  | .entityType => .entityType

variable [Hashing]

namespace Token

/-- The token of a word, without tags. -/
def ofFeatures (word : String) (f : Features) : Token where
  orth := .of word
  lower := .of f.lower
  norm := .of f.lower
  baseForm := .empty
  pos := .empty
  tag := .empty
  dep := .empty
  entityType := .empty
  shape := .of f.shape
  opening := .of f.opening
  ending := .of f.ending
  length := f.length
  flags := f.flags

/-- The token of a word, without tags. -/
def ofWord (word : String) : Token :=
  ofFeatures word (.of word)

/-- A text attribute of a token. -/
def text (t : Token) : TextAttribute → TextId
  | .orth => t.orth
  | .lower => t.lower
  | .norm => t.norm
  | .baseForm => t.baseForm
  | .pos => t.pos
  | .tag => t.tag
  | .dep => t.dep
  | .entityType => t.entityType
  | .shape => t.shape
  | .opening => t.opening
  | .ending => t.ending

/-- An attribute of a token. -/
def attr (t : Token) : Attribute → AttributeValue
  | .text a => .text (t.text a)
  | .length => .number t.length
  | .flag f => .flag (t.flags.has f)

/-- Sets a field. -/
def set (t : Token) (field : TagField) (id : TextId) : Token :=
  match field with
  | .norm => { t with norm := id }
  | .baseForm => { t with baseForm := id }
  | .pos => { t with pos := id }
  | .tag => { t with tag := id }
  | .dep => { t with dep := id }
  | .entityType => { t with entityType := id }

/-- The token of a word with the tags of another one. -/
def withTagsOf (t first : Token) : Token :=
  { t with
    baseForm := first.baseForm, pos := first.pos, tag := first.tag, dep := first.dep
    entityType := first.entityType }

end Token

/-- The texts that a token of a word refers to. -/
def Features.texts (word : String) (f : Features) : List String :=
  [word, f.lower, f.shape, f.opening, f.ending]

/-- Tokens in order, and a lexicon of their texts. -/
structure Document where
  lexicon : Lexicon := {}
  tokens : List Token := []

namespace Document

/-- Puts a word behind the others. -/
def push (d : Document) (word : String) : Document where
  lexicon := d.lexicon.addAll (Features.of word |>.texts word)
  tokens := d.tokens ++ [Token.ofWord word]

/-- The document of words. -/
def ofWords (words : List String) : Document :=
  words.foldl push {}

/-- The document of the words between white space. -/
def ofText (text : String) : Document :=
  ofWords (wordsOf text)

/-- The number of tokens. -/
def size (d : Document) : Nat :=
  d.tokens.length

/-- There are no tokens. -/
def isEmpty (d : Document) : Bool :=
  d.tokens.isEmpty

/-- The token of an index. -/
def token? (d : Document) (index : Nat) : Option Token :=
  d.tokens[index]?

/-- The text of an identity, if this document has entered it. -/
def resolve? (d : Document) (id : TextId) : Option String :=
  d.lexicon.get? id

/-- The text of a token. -/
def textAt (d : Document) (index : Nat) : String :=
  ((d.token? index).bind fun t => d.resolve? t.orth).getD ""

/-- The texts of the tokens from `start` to before `stop`, joined by spaces. A span beyond the
last token is cut. -/
def spanText (d : Document) (start stop : Nat) : String :=
  joinWords ((List.range' start (min stop d.size - start)).map d.textAt)

/-- The text of the document. -/
def text (d : Document) : String :=
  d.spanText 0 d.size

/-- What rules see of the document. -/
def view (d : Document) : TokenView where
  size := d.size
  attr index a :=
    match d.token? index with
    | some t => t.attr a
    | none => (Token.ofWord "").attr a

/-- Sets a field of a token. The text is entered even when there is no such token. -/
def set (d : Document) (index : Nat) (field : TagField) (value : String) : Document where
  lexicon := d.lexicon.add value
  tokens := d.tokens.modify index fun t => t.set field (.of value)

/-- Puts flags of a token in or takes them out. -/
def mark (d : Document) (index : Nat) (mask : FlagSet) (value : Bool) : Document :=
  { d with tokens := d.tokens.modify index fun t => { t with flags := t.flags.assign mask value } }

/-- Makes one token of the span from `start` to before `stop`, if it lies in the document and is
not empty, and tells its index. Its text is the text of the span, and its tags are those of the
first token. -/
def merge (d : Document) (start stop : Nat) : Document × Option Nat :=
  if start < stop ∧ stop ≤ d.size then
    match d.token? start with
    | none => (d, none)
    | some first =>
      let text := d.spanText start stop
      ({ lexicon := d.lexicon.addAll ((Features.of text).texts text)
         tokens := d.tokens.take start ++ (Token.ofWord text).withTagsOf first ::
           d.tokens.drop stop },
        some start)
  else (d, none)

end Document

/-- A change of a document. -/
inductive Edit
  | set (index : Nat) (field : TagField) (value : String)
  | mark (index : Nat) (mask : FlagSet) (value : Bool)
  | merge (start stop : Nat)

/-- Makes a change. -/
def Document.edit (d : Document) : Edit → Document
  | .set index field value => d.set index field value
  | .mark index mask value => d.mark index mask value
  | .merge start stop => (d.merge start stop).1

/-- Makes changes in order. -/
def Document.editAll (d : Document) (edits : List Edit) : Document :=
  edits.foldl edit d

end SpanRules
