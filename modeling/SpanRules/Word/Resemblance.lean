import SpanRules.Text.Expression
import SpanRules.Unicode.Digit
import SpanRules.Unicode.WhiteSpace
import SpanRules.Unicode.WordCharacter

/-! # Words that look like numbers, addresses or mail addresses -/

namespace SpanRules.Resemblance

open Expression

/-- One character of a list. -/
def oneOf (cs : List Char) : Expression :=
  .one fun c => c ∈ cs

def digits : Expression :=
  .plus (.one Unicode.isDecimalDigit)

/-- Digits with points and commas between them, or a fraction, after a sign or none. -/
def number : Expression :=
  .seq (.maybe (oneOf ['+', '-']))
    (.either
      (.seq digits (.many (.seq (oneOf ['.', ',']) digits)))
      (inRow [digits, oneOf ['/'], digits]))

/-- Words for numbers. -/
def numberWords : List String :=
  ["zero", "one", "two", "three", "four", "five", "six", "seven", "eight", "nine", "ten",
   "eleven", "twelve", "thirteen", "fourteen", "fifteen", "sixteen", "seventeen", "eighteen",
   "nineteen", "twenty", "thirty", "forty", "fifty", "sixty", "seventy", "eighty", "ninety",
   "hundred", "thousand", "million", "billion", "trillion"]

/-- The lower-case ASCII letter that a character equals when case is ignored, if any. The long
s and the Kelvin sign fold to letters. -/
def foldLetter (c : Char) : Char :=
  if c = 'ſ' then 's' else if c = '\u212a' then 'k' else c.toLower

/-- The characters of a text in any case. -/
def anyCase (text : String) : Expression :=
  inRow (text.toList.map fun l => .one fun c => foldLetter c = l)

/-- A character that is no white space. -/
def visible : Expression :=
  .one fun c => !Unicode.isWhiteSpace c

def label : Expression :=
  .plus (.one fun c => (foldLetter c).isLower || c.isDigit || c = '-')

/-- An address that starts with a scheme. -/
def schemeAddress : Expression :=
  inRow [.either (.seq (anyCase "http") (.maybe (anyCase "s"))) (anyCase "ftp"),
    anyCase "://", .plus visible]

/-- An address that starts with `www` and has a second point. -/
def wwwAddress : Expression :=
  inRow [anyCase "www.", .plus visible, oneOf ['.'], .plus visible]

/-- The endings by which a host name is known. -/
def hostEndings : List String :=
  ["com", "org", "net", "io", "edu", "gov"]

/-- A host name with a known ending, and a path after it or none. -/
def hostAddress : Expression :=
  inRow [label, .many (.seq (oneOf ['.']) label), oneOf ['.'],
    (hostEndings.map anyCase).foldr .either .never,
    .maybe (.seq (oneOf ['/']) (.many visible))]

def url : Expression :=
  .either schemeAddress (.either wwwAddress hostAddress)

/-- A character of the name of a mailbox. -/
def mailboxCharacter (c : Char) : Bool :=
  Unicode.isWordCharacter c || c = '.' || c = '+' || c = '-'

/-- A character of the domain of a mailbox. -/
def domainCharacter (c : Char) : Bool :=
  Unicode.isWordCharacter c || c = '-'

def email : Expression :=
  inRow [.plus (.one mailboxCharacter), oneOf ['@'], .plus (.one domainCharacter),
    .plus (.seq (oneOf ['.']) (.plus (.one domainCharacter)))]

end SpanRules.Resemblance
