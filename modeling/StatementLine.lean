import StatementLine.CodePoint.Blank
import StatementLine.CodePoint.DecimalDigit
import StatementLine.CodePoint.Letter
import StatementLine.CodePoint.Range
import StatementLine.CommandLine.Input
import StatementLine.CommandLine.Lines
import StatementLine.CommandLine.Options
import StatementLine.CommandLine.Report
import StatementLine.CommandLine.Run
import StatementLine.Event
import StatementLine.Host.Arithmetic
import StatementLine.Host.Builtin
import StatementLine.Host.ByteText
import StatementLine.Host.Condition
import StatementLine.Host.Expansion
import StatementLine.Host.Files
import StatementLine.Host.Format
import StatementLine.Host.Fraction
import StatementLine.Host.Grammar
import StatementLine.Host.Interpreter
import StatementLine.Host.Machine
import StatementLine.Host.Regex
import StatementLine.Host.Script
import StatementLine.Host.Shell
import StatementLine.Host.Utility
import StatementLine.Host.Workplace
import StatementLine.Identifier
import StatementLine.Lookup
import StatementLine.Main
import StatementLine.Program
import StatementLine.Proofs.SegmentGrammar
import StatementLine.Proofs.SpanGrammar
import StatementLine.Quote
import StatementLine.Quote.Writing
import StatementLine.Reader
import StatementLine.Reference
import StatementLine.Resolver
import StatementLine.Segment
import StatementLine.Segmentation
import StatementLine.Store
import StatementLine.Token
import StatementLine.VariableResolver
import StatementLine.Proofs.LineGrammar
import StatementLine.Proofs.CharacterClasses
import StatementLine.Proofs.Seam
import StatementLine.Proofs.Commands
import StatementLine.Proofs.Requests
import StatementLine.Proofs.Weaving
import StatementLine.Proofs.Concatenation
import StatementLine.Proofs.Adjacency
import StatementLine.Proofs.Recording
import StatementLine.Proofs.Stream
import StatementLine.Proofs.Finishing
import StatementLine.Proofs.Quotation
import StatementLine.Proofs.Completion
import StatementLine.Proofs.Spelling
import StatementLine.Proofs.Bindings
import StatementLine.Proofs.Visits
import StatementLine.Proofs.Arguments
import StatementLine.Proofs.Trace
import StatementLine.Proofs.SpanUnits
import StatementLine.Proofs.ReferenceForms
import StatementLine.Proofs.Position
import StatementLine.Proofs.Abandonment
import StatementLine.Proofs.Names
import StatementLine.Proofs.Toggling
import StatementLine.Proofs.Undoubling
import StatementLine.Proofs.Expressible
import StatementLine.Proofs.Substitution
import StatementLine.Proofs.Cursor
import StatementLine.Proofs.CursorReading
import StatementLine.Proofs.Resumption
import StatementLine.Proofs.Scanner
import StatementLine.Proofs.TextOrder
import StatementLine.Proofs.StoreHistory
import StatementLine.Proofs.Progress
import StatementLine.Proofs.Bounds
import StatementLine.Proofs.LineFeeds
import StatementLine.Proofs.LineEnds
