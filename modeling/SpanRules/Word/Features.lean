import SpanRules.Attribute.Flag
import SpanRules.Unicode.Lowering
import SpanRules.Unicode.Punctuation
import SpanRules.Word.Resemblance
import SpanRules.Word.Shape

/-! # Features of words

What the spelling of a word alone determines.
-/

namespace SpanRules

/-- Words that carry little meaning. -/
def stopWords : List String :=
  ["a", "about", "after", "all", "an", "and", "any", "are", "as", "at", "be", "been", "but",
   "by", "can", "could", "do", "for", "from", "had", "has", "have", "he", "her", "him", "his",
   "i", "if", "in", "into", "is", "it", "its", "me", "my", "no", "not", "of", "on", "or", "our",
   "she", "so", "some", "than", "that", "the", "their", "them", "then", "there", "these", "they",
   "this", "to", "too", "up", "us", "was", "we", "were", "what", "when", "which", "who", "will",
   "with", "would", "you", "your"]

/-- Goes through a word after a character that has a case or has none: an upper-case character
has to open a run of cased ones, a lower-case one has to continue it. `seen` tells whether a cased
character has come. -/
def titleAfter (afterCased seen : Bool) : List Char → Bool
  | [] => seen
  | c :: cs =>
    if Unicode.isUppercase c then !afterCased && titleAfter true true cs
    else if Unicode.isLowercase c then afterCased && titleAfter true true cs
    else titleAfter false seen cs

/-- Every run of cased characters starts with its only upper-case one, and there is a run. -/
def isTitle (word : List Char) : Bool :=
  titleAfter false false word

/-- A flag of a word that is not empty, from its characters and its lower-case form. -/
def wordHas (word : List Char) (lower : String) : Flag → Bool
  | .alpha => word.all Unicode.isAlphabetic
  | .ascii => word.all fun c => c.toNat < 128
  | .digit => word.all Char.isDigit
  | .lower => word.any Unicode.isLowercase && !word.any Unicode.isUppercase
  | .upper => word.any Unicode.isUppercase && !word.any Unicode.isLowercase
  | .title => isTitle word
  | .punct => word.all Unicode.isPunctuation
  | .space => word.all Unicode.isWhiteSpace
  | .stop => stopWords.contains lower
  | .likeNumber => Resemblance.number.accepts word || Resemblance.numberWords.contains lower
  | .likeUrl => Resemblance.url.accepts word
  | .likeEmail => Resemblance.email.accepts word

/-- The flags of a word. The empty word has none. -/
def wordFlags (word : String) : FlagSet :=
  if word = "" then .empty else .ofTest (wordHas word.toList (Unicode.lower word))

/-- What the spelling of a word determines. -/
structure Features where
  lower : String
  shape : String
  opening : String
  ending : String
  length : Nat
  flags : FlagSet

/-- The features of a word: among others its first character and its last three. -/
def Features.of (word : String) : Features where
  lower := Unicode.lower word
  shape := String.ofList (shapeOf word.toList)
  opening := String.ofList (word.toList.take 1)
  ending := String.ofList (word.toList.drop (word.toList.length - 3))
  length := word.toList.length
  flags := wordFlags word

end SpanRules
