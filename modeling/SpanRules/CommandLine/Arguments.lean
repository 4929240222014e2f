/-! # Arguments of the command line -/

namespace SpanRules.CommandLine

/-- What the arguments ask for, when they ask for a search. -/
structure Arguments where
  /-- The path of the rule file. -/
  rules : String
  /-- Compare phrases in lower case. -/
  lower : Bool := false
  /-- Let unknown attributes hold nowhere. -/
  ignoreUnknown : Bool := false
  /-- Enter every pattern. -/
  noPrescan : Bool := false
  /-- Print one JSON object a match. -/
  json : Bool := false
  /-- Use colours. -/
  color : Bool := false
  /-- Use no colours. -/
  noColor : Bool := false
  /-- The words of the input. -/
  input : List String := []
deriving DecidableEq, Repr

/-- What the arguments ask for. -/
inductive Request
  | search (arguments : Arguments)
  | help
  | version
  /-- The arguments make no sense. -/
  | misuse
deriving DecidableEq, Repr

/-- The arguments read so far; the rule file may still be missing. -/
structure Draft where
  rules : Option String := none
  rest : Arguments := { rules := "" }

namespace Draft

/-- Names the rule file, once. -/
def setRules (d : Draft) (path : String) : Option Draft :=
  if d.rules.isSome ∨ path = "" then none else some { d with rules := path }

/-- Sets a switch of the given name, once. -/
def setSwitch (d : Draft) (name : String) : Option Draft :=
  let a := d.rest
  let once (already : Bool) (a : Arguments) : Option Draft :=
    if already then none else some { d with rest := a }
  match name with
  | "lower" => once a.lower { a with lower := true }
  | "ignore-unknown" => once a.ignoreUnknown { a with ignoreUnknown := true }
  | "no-trigger-scan" => once a.noPrescan { a with noPrescan := true }
  | "json" => once a.json { a with json := true }
  | "color" => once a.color { a with color := true }
  | "no-color" => once a.noColor { a with noColor := true }
  | _ => none

def addInput (d : Draft) (words : List String) : Draft :=
  { d with rest := { d.rest with input := d.rest.input ++ words } }

/-- The request of complete arguments. A rule file has to be named, and colours cannot be both
wanted and refused. -/
def finish (d : Draft) : Request :=
  match d.rules with
  | none => .misuse
  | some path =>
    if d.rest.color && d.rest.noColor then .misuse else .search { d.rest with rules := path }

end Draft

/-- What an argument turns out to be. -/
inductive Argument
  | word
  /-- Only words follow. -/
  | endOfOptions
  /-- The name of an option, and the value behind an equals sign, if one stands there. -/
  | long (name : String) (value : Option String)
  /-- The letters of short options. -/
  | short (letters : List Char)

/-- Tells options from words. A dash alone is a word. -/
def Argument.of (text : String) : Argument :=
  match text.toList with
  | ['-', '-'] => .endOfOptions
  | '-' :: '-' :: cs =>
    let value := cs.dropWhile (· ≠ '=')
    .long (String.ofList (cs.takeWhile (· ≠ '=')))
      (if value.isEmpty then none else some (String.ofList (value.drop 1)))
  | '-' :: c :: cs => .short (c :: cs)
  | _ => .word

/-- Reads arguments behind those of a draft. `expecting` says that the last option still lacks
its value. The first argument that makes no sense or asks for help ends the reading. -/
def readArguments (expecting : Bool) (d : Draft) : List String → Request
  | [] => if expecting then .misuse else d.finish
  | text :: rest =>
    match Argument.of text with
    | .word =>
      if expecting then
        match d.setRules text with
        | some d => readArguments false d rest
        | none => .misuse
      else readArguments false (d.addInput [text]) rest
    | .endOfOptions => if expecting then .misuse else (d.addInput rest).finish
    | .long name value =>
      if expecting then .misuse
      else match name, value with
        | "rules", none => readArguments true d rest
        | "rules", some path =>
          match d.setRules path with
          | some d => readArguments false d rest
          | none => .misuse
        | "help", none => .help
        | "version", none => .version
        | name, none =>
          match d.setSwitch name with
          | some d => readArguments false d rest
          | none => .misuse
        | _, some _ => .misuse
    | .short letters =>
      if expecting then .misuse
      else match letters with
        | ['r'] => readArguments true d rest
        | 'r' :: '=' :: path | 'r' :: path =>
          match d.setRules (String.ofList path) with
          | some d => readArguments false d rest
          | none => .misuse
        | 'h' :: _ => .help
        | 'V' :: _ => .version
        | _ => .misuse

/-- The request of the arguments. -/
def Request.of (arguments : List String) : Request :=
  readArguments false {} arguments

/-- The name and the number of the program. -/
def versionText : String :=
  "tokmatch 0.1.0\n"

/-- How the program is called. -/
def usageText : String :=
  "Usage: tokmatch [OPTIONS] --rules <RULES> [INPUT]...\n"

/-- What the program does and which options it has. -/
def helpText : String :=
  "Match token patterns and phrases against whitespace-tokenized text\n\n" ++ usageText ++
  "\nArguments:\n" ++
  "  [INPUT]...  Input text. Reads stdin when omitted\n" ++
  "\nOptions:\n" ++
  "  -r, --rules <RULES>    JSON rule file: \x7b\"patterns\": \x7bKEY: [[token, ...], ...]\x7d, " ++
  "\"phrases\": \x7bKEY: [\"text\", ...]\x7d\x7d\n" ++
  "      --lower            Match phrases on lowercased text instead of exact text\n" ++
  "      --ignore-unknown   Treat unknown attribute names as never matching instead of failing\n" ++
  "      --no-trigger-scan  " ++
  "Disable the literal pre-scan that skips patterns which cannot match\n" ++
  "      --json             Print matches as JSON lines instead of the report\n" ++
  "      --color            Force ANSI color output\n" ++
  "      --no-color         Disable ANSI color output\n" ++
  "  -h, --help             Print help\n" ++
  "  -V, --version          Print version\n"

end SpanRules.CommandLine
