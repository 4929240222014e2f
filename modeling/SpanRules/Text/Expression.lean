/-! # Regular expressions

An expression accepts a text when, after the derivative by each of its characters in turn, what
is left accepts the empty text.
-/

namespace SpanRules

/-- A regular expression over characters. -/
inductive Expression
  /-- No text. -/
  | never
  /-- The empty text. -/
  | nothing
  /-- One character that passes a test. -/
  | one (test : Char → Bool)
  /-- Two texts in a row. -/
  | seq (first second : Expression)
  /-- One of two. -/
  | either (first second : Expression)
  /-- Any number of texts in a row. -/
  | many (body : Expression)

namespace Expression

/-- Two texts in a row, without the trivial cases. -/
def andThen : Expression → Expression → Expression
  | .never, _ => .never
  | .nothing, b => b
  | a, b => .seq a b

/-- One of two, without the trivial cases. -/
def orElse : Expression → Expression → Expression
  | .never, b => b
  | a, .never => a
  | a, b => .either a b

def plus (body : Expression) : Expression :=
  .seq body (.many body)

def maybe (body : Expression) : Expression :=
  .either body .nothing

def inRow : List Expression → Expression
  | [] => .nothing
  | e :: rest => .seq e (inRow rest)

def acceptsEmpty : Expression → Bool
  | .never => false
  | .nothing => true
  | .one _ => false
  | .seq a b => a.acceptsEmpty && b.acceptsEmpty
  | .either a b => a.acceptsEmpty || b.acceptsEmpty
  | .many _ => true

/-- The expression for what may follow a character. -/
def derive (c : Char) : Expression → Expression
  | .never => .never
  | .nothing => .never
  | .one test => if test c then .nothing else .never
  | .seq a b =>
    if a.acceptsEmpty then orElse (andThen (a.derive c) b) (b.derive c)
    else andThen (a.derive c) b
  | .either a b => orElse (a.derive c) (b.derive c)
  | .many a => andThen (a.derive c) (.many a)

/-- The expression accepts a text. -/
def accepts (e : Expression) (text : List Char) : Bool :=
  (text.foldl (fun e c => e.derive c) e).acceptsEmpty

end Expression

end SpanRules
