import SpanRules.Unicode.Ranges
import SpanRules.Unicode.Alphabetic
import SpanRules.Unicode.Uppercase
import SpanRules.Unicode.Lowercase
import SpanRules.Unicode.Punctuation
import SpanRules.Unicode.Digit
import SpanRules.Unicode.WordCharacter
import SpanRules.Unicode.WhiteSpace
import SpanRules.Unicode.Printable
import SpanRules.Unicode.Lowering
import SpanRules.Table
import SpanRules.Order
import SpanRules.Text.Lexicon
import SpanRules.Text.Hash
import SpanRules.Text.Fields
import SpanRules.Text.Quoted
import SpanRules.Attribute.Basic
import SpanRules.Decimal.Shortest
import SpanRules.Json.Number
import SpanRules.Json.Reader
import SpanRules.Json.Printer
import SpanRules.Pattern.Reader
import SpanRules.Word.Features
import SpanRules.Document.Basic
import SpanRules.Automaton.Frontier
import SpanRules.Automaton.Search
import SpanRules.Match
import SpanRules.RuleBook.Search
import SpanRules.PhraseBook.Search
import SpanRules.CommandLine.Run
import SpanRules.Main
import SpanRules.Proofs.Automaton.Layout
import SpanRules.Proofs.Automaton.Frontier
import SpanRules.Proofs.Automaton.Sweep
import SpanRules.Proofs.Text.Distinct
import SpanRules.Proofs.Document.Records
import SpanRules.Proofs.Pattern.Literals
import SpanRules.Proofs.Pattern.Collect
import SpanRules.Proofs.Pattern.Grammar
import SpanRules.Proofs.Automaton.Prescan
import SpanRules.Proofs.RuleBook.Ledger
import SpanRules.Proofs.RuleBook.Refinement
import SpanRules.Proofs.RuleBook.Matches
import SpanRules.Proofs.PhraseBook.Registrations
import SpanRules.Proofs.PhraseBook.Occurrences
import SpanRules.Proofs.PhraseBook.LiteralRules
import SpanRules.Proofs.Match.Handlers
import SpanRules.Proofs.RuleBook.Refusals
import SpanRules.Proofs.Automaton.Reads
import SpanRules.Proofs.Match.Dependence
import SpanRules.Proofs.PhraseBook.Refusals
import SpanRules.Proofs.Pattern.Unknown
import SpanRules.Proofs.Automaton.Effort
import SpanRules.Proofs.Text.Fields
import SpanRules.Proofs.Document.Merging
import SpanRules.Proofs.Text.Bytes
import SpanRules.Proofs.Json.Strings
import SpanRules.Proofs.CommandLine.RuleFile
import SpanRules.Proofs.CommandLine.Report
import SpanRules.Proofs.Automaton.Bounds
import SpanRules.Proofs.RuleBook.Bounds
import SpanRules.Proofs.PhraseBook.Bounds
import SpanRules.Proofs.Match.Bounds
import SpanRules.Proofs.CommandLine.Refusals
import SpanRules.Proofs.Automaton.Arena
import SpanRules.Proofs.PhraseBook.Prefixes
import SpanRules.Proofs.Word.Flags
import SpanRules.Proofs.Automaton.Generations
import SpanRules.Proofs.Pattern.Canonical
import SpanRules.Proofs.Word.Shape
