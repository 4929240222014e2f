/-! # Lexical flags -/

namespace SpanRules

/-- A yes-or-no property of a word. -/
inductive Flag
  | alpha | ascii | digit | lower | upper | title | punct | space | stop
  | likeNumber | likeUrl | likeEmail
deriving DecidableEq, Repr

namespace Flag

/-- Every flag, in the order of their bits. -/
def all : List Flag :=
  [.alpha, .ascii, .digit, .lower, .upper, .title, .punct, .space, .stop,
   .likeNumber, .likeUrl, .likeEmail]

def name : Flag → String
  | .alpha => "IS_ALPHA"
  | .ascii => "IS_ASCII"
  | .digit => "IS_DIGIT"
  | .lower => "IS_LOWER"
  | .upper => "IS_UPPER"
  | .title => "IS_TITLE"
  | .punct => "IS_PUNCT"
  | .space => "IS_SPACE"
  | .stop => "IS_STOP"
  | .likeNumber => "LIKE_NUM"
  | .likeUrl => "LIKE_URL"
  | .likeEmail => "LIKE_EMAIL"

def rank : Flag → Nat
  | .alpha => 0
  | .ascii => 1
  | .digit => 2
  | .lower => 3
  | .upper => 4
  | .title => 5
  | .punct => 6
  | .space => 7
  | .stop => 8
  | .likeNumber => 9
  | .likeUrl => 10
  | .likeEmail => 11

/-- The bit that stands for a flag in the number of a set. -/
def bit (f : Flag) : Nat :=
  1 <<< f.rank

@[simp] theorem mem_all (f : Flag) : f ∈ all := by
  cases f <;> simp [all]

end Flag

/-- A set of flags, listed in the order of their bits. -/
structure FlagSet where
  flags : List Flag
  ordered : Flag.all.filter (· ∈ flags) = flags
deriving DecidableEq, Repr

namespace FlagSet

/-- The flags that satisfy a test. -/
def ofTest (test : Flag → Bool) : FlagSet where
  flags := Flag.all.filter test
  ordered := List.filter_congr fun f _ => by simp

def empty : FlagSet :=
  ofTest fun _ => false

/-- The flags of a list. -/
def ofList (flags : List Flag) : FlagSet :=
  ofTest (· ∈ flags)

/-- The flag belongs to the set. -/
def has (s : FlagSet) (f : Flag) : Bool :=
  f ∈ s.flags

/-- Puts every flag of `mask` in or takes every one out. -/
def assign (s mask : FlagSet) (value : Bool) : FlagSet :=
  ofTest fun f => if mask.has f then value else s.has f

/-- The number of a set: the sum of its bits. -/
def bits (s : FlagSet) : Nat :=
  s.flags.foldl (fun n f => n + f.bit) 0

@[simp] theorem has_ofTest (test : Flag → Bool) (f : Flag) : (ofTest test).has f = test f := by
  cases h : test f <;> simp [has, ofTest, h]

@[simp] theorem has_empty (f : Flag) : empty.has f = false := by
  simp [empty]

@[simp] theorem has_ofList (flags : List Flag) (f : Flag) : (ofList flags).has f = (f ∈ flags) := by
  simp [ofList]

@[simp] theorem has_assign (s mask : FlagSet) (value : Bool) (f : Flag) :
    (s.assign mask value).has f = if mask.has f then value else s.has f := by
  simp [assign]

end FlagSet

end SpanRules
