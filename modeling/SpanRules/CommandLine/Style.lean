/-! # Styles of terminal text -/

namespace SpanRules.CommandLine

/-- A style of text on a terminal. -/
inductive Style
  | dim | bold | green | yellow | blue | cyan | gray
deriving DecidableEq, Repr

/-- The sequence that starts a style. -/
def Style.start : Style → String
  | .dim => "\x1b[2m"
  | .bold => "\x1b[1m"
  | .green => "\x1b[32m"
  | .yellow => "\x1b[33m"
  | .blue => "\x1b[34m"
  | .cyan => "\x1b[36m"
  | .gray => "\x1b[90m"

/-- The sequence that ends all styles. -/
def Style.reset : String :=
  "\x1b[0m"

/-- A text in a style, or as it is when styles are off. -/
def Style.paint (style : Style) (on : Bool) (text : String) : String :=
  if on then style.start ++ text ++ Style.reset else text

end SpanRules.CommandLine
