import PipeQuery.Clause
import PipeQuery.Clause.Keyword
import PipeQuery.Clause.Wire
import PipeQuery.CommandLine
import PipeQuery.CommandLine.Arguments
import PipeQuery.CommandLine.LogFilter
import PipeQuery.Demand.Readers
import PipeQuery.Demand.Supply
import PipeQuery.Diagnostic
import PipeQuery.Fault
import PipeQuery.FieldSet
import PipeQuery.Json.Basic
import PipeQuery.Json.Lexeme
import PipeQuery.Json.Quoting
import PipeQuery.Json.Reading
import PipeQuery.Json.Record
import PipeQuery.Json.Writing
import PipeQuery.Main
import PipeQuery.Number.Binary64
import PipeQuery.Number.Decimal
import PipeQuery.Number.Numeral
import PipeQuery.Number.Shortest
import PipeQuery.Pattern
import PipeQuery.Pattern.Bracket
import PipeQuery.Pattern.Escape
import PipeQuery.Pattern.Mode
import PipeQuery.Pattern.Opening
import PipeQuery.Proofs.Bookmarks
import PipeQuery.Proofs.CommandLine
import PipeQuery.Proofs.CommandLine.Items
import PipeQuery.Proofs.Composition
import PipeQuery.Proofs.Demand.Agreement
import PipeQuery.Proofs.Demand.Course
import PipeQuery.Proofs.Excerpt
import PipeQuery.Proofs.Fields
import PipeQuery.Proofs.Formatting
import PipeQuery.Proofs.Grammar.Field
import PipeQuery.Proofs.Grammar.RangeChain
import PipeQuery.Proofs.Grammar.SoftwareList
import PipeQuery.Proofs.Grammar.ValueList
import PipeQuery.Proofs.HeldBack
import PipeQuery.Proofs.Integers
import PipeQuery.Proofs.Json.Lexeme
import PipeQuery.Proofs.Json.Record
import PipeQuery.Proofs.Json.Spacing
import PipeQuery.Proofs.Json.Tree
import PipeQuery.Proofs.LetterCase
import PipeQuery.Proofs.LexicalFaults
import PipeQuery.Proofs.Log
import PipeQuery.Proofs.Negation
import PipeQuery.Proofs.Number.Exact
import PipeQuery.Proofs.Number.Integer
import PipeQuery.Proofs.Number.LetterCase
import PipeQuery.Proofs.Number.Numeral
import PipeQuery.Proofs.Number.Written
import PipeQuery.Proofs.Origins
import PipeQuery.Proofs.Progress
import PipeQuery.Proofs.ReadBack
import PipeQuery.Proofs.Reading.Acceptance
import PipeQuery.Proofs.Reading.Blame
import PipeQuery.Proofs.Reading.Continuation
import PipeQuery.Proofs.Reading.Locality
import PipeQuery.Proofs.Reading.Relocation
import PipeQuery.Proofs.Rearrangement
import PipeQuery.Proofs.Refusal
import PipeQuery.Proofs.Separation
import PipeQuery.Proofs.Token.Body
import PipeQuery.Proofs.Token.Concatenation
import PipeQuery.Proofs.Token.Cut
import PipeQuery.Proofs.Token.Fault
import PipeQuery.Proofs.Token.Inscription
import PipeQuery.Proofs.Token.Iteration
import PipeQuery.Proofs.Token.Lookahead
import PipeQuery.Proofs.Token.Relocation
import PipeQuery.Proofs.Token.Resumption
import PipeQuery.Proofs.Token.Sources
import PipeQuery.Proofs.Token.Spelling
import PipeQuery.Proofs.Token.Stopping
import PipeQuery.Proofs.Tolerance
import PipeQuery.Proofs.WellFormed
import PipeQuery.Proofs.Wire
import PipeQuery.Proofs.Written
import PipeQuery.Query.ClauseReading
import PipeQuery.Query.Event
import PipeQuery.Query.Log
import PipeQuery.Query.RangeChain
import PipeQuery.Query.Reading
import PipeQuery.Query.Run
import PipeQuery.Query.SoftwareList
import PipeQuery.Query.ValueList
import PipeQuery.Query.Wire
import PipeQuery.Settings
import PipeQuery.Settings.Wire
import PipeQuery.Text.Alphanumeric
import PipeQuery.Text.Character
import PipeQuery.Text.CharacterSet
import PipeQuery.Text.Cursor
import PipeQuery.Text.Items
import PipeQuery.Text.Printable
import PipeQuery.Text.Quoted
import PipeQuery.Token
import PipeQuery.Token.Reader
import PipeQuery.Token.Scan
import PipeQuery.Token.Stream
