import SpanRules.CommandLine.Run
import SpanRules.Text.Hash

/-! # The program -/

namespace SpanRules.CommandLine

/-- Reads a text, or tells the cause why that is not possible. -/
def readText (bytes : IO ByteArray) : IO (Except String String) :=
  try
    match String.fromUTF8? (← bytes) with
    | some text => return .ok text
    | none => return .error "stream did not contain valid UTF-8"
  catch e =>
    return .error (toString e)

/-- Reads a stream to its end, behind what has been read. -/
partial def readToEnd (stream : IO.FS.Stream) (bytes : ByteArray) : IO ByteArray := do
  let more ← stream.read 4096
  if more.isEmpty then return bytes else readToEnd stream (bytes ++ more)

/-- Prints a reply and gives its exit code. -/
def Reply.deliver (r : Reply) : IO UInt32 := do
  (← IO.getStdout).putStr r.stdout
  (← IO.getStderr).putStr r.stderr
  return r.exit

/-- What is said about a rule file that is refused. -/
def complaint (_ : String) : String :=
  "not a JSON text with patterns and phrases"

/-- Searches the input, which is read only when the rules have been accepted. -/
def Arguments.search [Hashing] (a : Arguments) : IO UInt32 := do
  match Books.load a complaint (← readText (IO.FS.readBinFile a.rules)) with
  | .error r => (Reply.ofRefusal r).deliver
  | .ok books =>
    let stdin ← if a.input.isEmpty then readText do readToEnd (← IO.getStdin) .empty
      else pure (.ok "")
    let terminal ← (← IO.getStdout).isTty
    let started ← IO.monoNanosNow
    let findings ← IO.lazyPure fun _ => books.findings a stdin
    let total := (← IO.monoNanosNow) - started
    (Reply.ofFindings a books terminal { total, simulation := total } findings).deliver

end SpanRules.CommandLine

open SpanRules SpanRules.CommandLine in
/-- Does what the arguments ask for. -/
def main (arguments : List String) : IO UInt32 :=
  letI := Hashing.folded
  match Request.of arguments with
  | .search a => a.search
  | .help => Reply.help.deliver
  | .version => Reply.version.deliver
  | .misuse => Reply.misuse.deliver
