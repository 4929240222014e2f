import SpanRules.CommandLine.Arguments
import SpanRules.CommandLine.Report
import SpanRules.CommandLine.RuleFile

/-! # Runs of the command line

A run reads the rule file, enters its rules and then its phrases, takes the input and searches
it. The first step that fails ends the run, and nothing is printed before all have succeeded. What
the system says about a text that it cannot give, and what the reader of JSON says about one that it
refuses, is printed behind the reason and otherwise left open.
-/

namespace SpanRules.CommandLine

/-- Why a run ends without a search. -/
inductive Refusal
  | unreadableFile (path cause : String)
  | malformedFile (path cause : String)
  | rule (key : String) (fault : Fault)
  | phrase (key : String) (fault : Fault)
  | unreadableInput (cause : String)
  | noInput

/-- A refusal in words. -/
def Refusal.message : Refusal → String
  | .unreadableFile path cause => "failed to read rule file " ++ path ++ ": " ++ cause
  | .malformedFile path cause => "invalid rule file " ++ path ++ ": " ++ cause
  | .rule key fault => "rule '" ++ key ++ "': " ++ fault.message
  | .phrase key fault => "phrase '" ++ key ++ "': " ++ fault.message
  | .unreadableInput cause => "failed to read stdin: " ++ cause
  | .noInput => "no input provided"

/-- The options that the arguments ask for. -/
def Arguments.options (a : Arguments) : Options where
  unknown := if a.ignoreUnknown then .ignore else .refuse
  prescan := !a.noPrescan

/-- Reads the rule file from its text, unless there is a cause why it has none. -/
def readFile (path : String) (complaint : String → String) :
    Except String String → Except Refusal RuleFile
  | .error cause => .error (.unreadableFile path cause)
  | .ok text =>
    match RuleFile.read text with
    | some file => .ok file
    | none => .error (.malformedFile path (complaint text))

variable [Hashing]

/-- Enters the patterns of every key in order. -/
def enterRules (b : RuleBook Unit) : List (String × List Json) → Except Refusal (RuleBook Unit)
  | [] => .ok b
  | (key, patterns) :: rest =>
    match b.add key none patterns with
    | .ok b => enterRules b rest
    | .error fault => .error (.rule key fault)

/-- Enters the phrases of every key in order. -/
def enterPhrases (b : PhraseBook Unit) :
    List (String × List String) → Except Refusal (PhraseBook Unit)
  | [] => .ok b
  | (key, texts) :: rest =>
    match b.add key none (texts.map fun text => (Document.ofText text).view) with
    | .ok b => enterPhrases b rest
    | .error fault => .error (.phrase key fault)

/-- The books of a rule file. -/
def Books.ofFile (a : Arguments) (file : RuleFile) : Except Refusal Books :=
  match enterRules { options := a.options } file.patterns with
  | .error r => .error r
  | .ok rules =>
    match enterPhrases { attr := if a.lower then .lower else .orth } file.phrases with
    | .error r => .error r
    | .ok phrases => .ok { rules, phrases }

/-- The books that the arguments ask for. -/
def Books.load (a : Arguments) (complaint : String → String) (file : Except String String) :
    Except Refusal Books :=
  match readFile a.rules complaint file with
  | .error r => .error r
  | .ok file => Books.ofFile a file

/-- The input: the words of the arguments, or else what can be read from the standard input. -/
def Arguments.inputText (a : Arguments) (stdin : Except String String) : Except Refusal String :=
  if a.input.isEmpty then
    match stdin with
    | .ok text => .ok text
    | .error cause => .error (.unreadableInput cause)
  else .ok (" ".intercalate a.input)

/-- The document of the input, which must not be blank. -/
def Arguments.document (a : Arguments) (stdin : Except String String) : Except Refusal Document :=
  match a.inputText stdin with
  | .error r => .error r
  | .ok text => if isBlank text then .error .noInput else .ok (Document.ofText text)

/-- Colours are used when they are wanted, or on a terminal when they are not refused. -/
def Arguments.colored (a : Arguments) (terminal : Bool) : Bool :=
  a.color || (!a.noColor && terminal)

/-- What a run prints about its findings. -/
def Findings.lines (f : Findings) (a : Arguments) (b : Books) (terminal : Bool)
    (timing : Timing) : List String :=
  if a.json then f.jsonLines b else f.reportLines (a.colored terminal) b timing

/-- Searches the input. -/
def Books.findings (b : Books) (a : Arguments) (stdin : Except String String) :
    Except Refusal Findings :=
  match a.document stdin with
  | .error r => .error r
  | .ok document => .ok (b.search document)

/-- What a run leaves behind. -/
structure Reply where
  exit : UInt32
  stdout : String
  stderr : String
deriving DecidableEq, Repr

namespace Reply

/-- The reply that prints lines. -/
def ofLines (lines : List String) : Reply :=
  ⟨0, String.join (lines.map (· ++ "\n")), ""⟩

/-- The reply to a run that ends without a search. -/
def ofRefusal (r : Refusal) : Reply :=
  ⟨2, "", "error: " ++ r.message ++ "\n"⟩

/-- The reply to a search of the input. -/
def ofFindings (a : Arguments) (b : Books) (terminal : Bool) (timing : Timing) :
    Except Refusal Findings → Reply
  | .error r => ofRefusal r
  | .ok findings => ofLines (findings.lines a b terminal timing)

/-- The reply to arguments that make no sense. -/
def misuse : Reply :=
  ⟨2, "", "error: invalid arguments\n\n" ++ usageText⟩

/-- The reply to a question for help. -/
def help : Reply :=
  ⟨0, helpText, ""⟩

/-- The reply to a question for the version. -/
def version : Reply :=
  ⟨0, versionText, ""⟩

end Reply

/-- What a run meets with. -/
structure Surroundings where
  /-- The text of the rule file, or the cause why it cannot be read. -/
  file : Except String String
  /-- What the reader of JSON says about a text that it refuses. -/
  complaint : String → String
  /-- The text on the standard input, or the cause why it cannot be read. -/
  stdin : Except String String
  /-- Whether the output is a terminal. -/
  terminal : Bool := false
  /-- How long the search takes. -/
  timing : Timing := {}

/-- The reply to arguments that ask for a search. -/
def run (a : Arguments) (s : Surroundings) : Reply :=
  match Books.load a s.complaint s.file with
  | .error r => .ofRefusal r
  | .ok books => .ofFindings a books s.terminal s.timing (books.findings a s.stdin)

end SpanRules.CommandLine
