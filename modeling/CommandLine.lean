import CommandLine.Text.Ranges
import CommandLine.Text.Blank
import CommandLine.Text.Digit
import CommandLine.Text.Word
import CommandLine.Text.Printable
import CommandLine.Text.CaseTable
import CommandLine.Text.Case
import CommandLine.Text.Quoted
import CommandLine.Text.Clipped
import CommandLine.Console.ColumnTable
import CommandLine.Console.Columns
import CommandLine.Text.Styled
import CommandLine.Text.Ordinal
import CommandLine.Numeral.Digits
import CommandLine.Numeral.Integer
import CommandLine.Numeral.Binary64
import CommandLine.Numeral.Decimal
import CommandLine.Numeral.Shortest
import CommandLine.Value.Basic
import CommandLine.Value.Display
import CommandLine.Descriptor
import CommandLine.Annotation.Basic
import CommandLine.Annotation.Formation
import CommandLine.Annotation.Describe
import CommandLine.Failure
import CommandLine.Converter.Basic
import CommandLine.Converter.Standard
import CommandLine.Parameter.Spelling
import CommandLine.Parameter.Basic
import CommandLine.Parameter.Declaration
import CommandLine.Parameter.Display
import CommandLine.Parameter.Attributes
import CommandLine.Schema
import CommandLine.Word.Basic
import CommandLine.Word.Stream
import CommandLine.Suggestion.Similarity
import CommandLine.Suggestion.Basic
import CommandLine.Fault.Code
import CommandLine.Host
import CommandLine.Fault.Basic
import CommandLine.Event
import CommandLine.Outcome
import CommandLine.Collector.Basic
import CommandLine.Window
import CommandLine.Collector.Resolution
import CommandLine.Collector.Binding
import CommandLine.Parse
import CommandLine.Console.Folding
import CommandLine.Report.Typesetter
import CommandLine.Report.Layout
import CommandLine.Console.Basic
import CommandLine.Report.Width
import CommandLine.Report.Style
import CommandLine.Report.Notice
import CommandLine.Report.Group
import CommandLine.Parser
import CommandLine.Reflection
import CommandLine.Interpreter.Token
import CommandLine.Interpreter.Expression
import CommandLine.Interpreter.Basic
import CommandLine.Proofs.Cursor.Scan
import CommandLine.Proofs.Transcript.Binding
import CommandLine.Proofs.Transcript.Basic
import CommandLine.Proofs.Transcript.Outcome
import CommandLine.Proofs.Accounting
import CommandLine.Proofs.Match.Outline
import CommandLine.Proofs.NonInterference
import CommandLine.Proofs.Overflow
import CommandLine.Proofs.Coherence
import CommandLine.Proofs.Cursor.Fresh
import CommandLine.Proofs.Cursor.Shift
import CommandLine.Proofs.Cursor.Barrier
import CommandLine.Proofs.Order.Results
import CommandLine.Proofs.Match.Anchor
import CommandLine.Proofs.Order.Faults
import CommandLine.Proofs.Guarded
import CommandLine.Proofs.Paraphrase.Sharing
import CommandLine.Proofs.Paraphrase.Exchange
import CommandLine.Proofs.Anchors
import CommandLine.Proofs.Redeclaration
import CommandLine.Proofs.Extension
import CommandLine.Proofs.Flagless
import CommandLine.Proofs.Fallback
import CommandLine.Proofs.Requests
import CommandLine.Proofs.Collector.History
import CommandLine.Proofs.Equality
import CommandLine.Proofs.Positions.Consumption
import CommandLine.Proofs.Windows
import CommandLine.Proofs.Repetition
import CommandLine.Proofs.Composition
import CommandLine.Proofs.Classification
import CommandLine.Proofs.Lookup
import CommandLine.Proofs.Declaration
import CommandLine.Proofs.Switches
import CommandLine.Proofs.Identity
import CommandLine.Proofs.Labels
import CommandLine.Proofs.Journal
import CommandLine.Proofs.Ranking
import CommandLine.Proofs.Numeral.Integer
import CommandLine.Proofs.Mentions
import CommandLine.Proofs.Erasure
import CommandLine.Proofs.Attributes
import CommandLine.Proofs.Ordinal
import CommandLine.Proofs.Commas
