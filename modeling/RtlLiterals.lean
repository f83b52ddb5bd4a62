import RtlLiterals.Color
import RtlLiterals.Command.Arguments
import RtlLiterals.Command.Help
import RtlLiterals.Command.Run
import RtlLiterals.Decoration
import RtlLiterals.File.Error
import RtlLiterals.File.Tree
import RtlLiterals.File.World
import RtlLiterals.Grammar.Automaton
import RtlLiterals.Grammar.Flat
import RtlLiterals.Grammar.Items
import RtlLiterals.Grammar.JavaScript
import RtlLiterals.Grammar.Lexicon
import RtlLiterals.Grammar.Pattern
import RtlLiterals.Grammar.Rule
import RtlLiterals.Grammar.Rust
import RtlLiterals.Grammar.TypeScript
import RtlLiterals.Language
import RtlLiterals.Literal.Lexical
import RtlLiterals.Literal.Quote
import RtlLiterals.Literal.Span
import RtlLiterals.Location
import RtlLiterals.Main
import RtlLiterals.Match
import RtlLiterals.Number.Binary64
import RtlLiterals.Number.Reading
import RtlLiterals.Number.Shortest
import RtlLiterals.Number.Significand
import RtlLiterals.Parse.Document
import RtlLiterals.Parse.HandReader
import RtlLiterals.Parse.Machine
import RtlLiterals.Parse.Recovery
import RtlLiterals.Parse.Stack
import RtlLiterals.Parse.Subtree
import RtlLiterals.Path
import RtlLiterals.Proofs.Color.Hexadecimal
import RtlLiterals.Proofs.Command.Endings
import RtlLiterals.Proofs.Command.Files
import RtlLiterals.Proofs.Command.Influence
import RtlLiterals.Proofs.Command.Runs
import RtlLiterals.Proofs.File.Admitting
import RtlLiterals.Proofs.File.Changes
import RtlLiterals.Proofs.File.Elsewhere
import RtlLiterals.Proofs.File.Saving
import RtlLiterals.Proofs.Json.Grammar
import RtlLiterals.Proofs.Json.Unambiguous
import RtlLiterals.Proofs.Language.Detection
import RtlLiterals.Proofs.Literal.CharScan
import RtlLiterals.Proofs.Literal.Decomposition
import RtlLiterals.Proofs.Literal.Delimiters
import RtlLiterals.Proofs.Literal.Failure
import RtlLiterals.Proofs.Literal.Items
import RtlLiterals.Proofs.Literal.Placement
import RtlLiterals.Proofs.Literal.Relabel
import RtlLiterals.Proofs.Literal.Restart
import RtlLiterals.Proofs.Number.Layout
import RtlLiterals.Proofs.Number.Nearest
import RtlLiterals.Proofs.Number.ReadBack
import RtlLiterals.Proofs.Number.Rounding
import RtlLiterals.Proofs.Number.Shortest
import RtlLiterals.Proofs.Path.Components
import RtlLiterals.Proofs.Report.Objects
import RtlLiterals.Proofs.Report.Records
import RtlLiterals.Proofs.Scan.Agreement
import RtlLiterals.Proofs.Scan.AnyOrder
import RtlLiterals.Proofs.Scan.Edits
import RtlLiterals.Proofs.Scan.Lines
import RtlLiterals.Proofs.Scan.Matches
import RtlLiterals.Proofs.Scan.Order
import RtlLiterals.Proofs.Session.Delivery
import RtlLiterals.Proofs.Session.History
import RtlLiterals.Proofs.Session.Lines
import RtlLiterals.Proofs.Session.LinesAbove
import RtlLiterals.Proofs.Session.Ranges
import RtlLiterals.Proofs.Settings.Merging
import RtlLiterals.Proofs.Settings.RoundTrip
import RtlLiterals.Proofs.Text.Decimal
import RtlLiterals.Proofs.Text.LineBreaks
import RtlLiterals.Proofs.Text.LineStarts
import RtlLiterals.Proofs.Text.Offsets
import RtlLiterals.Proofs.Text.Requests
import RtlLiterals.Proofs.Tree.Paths
import RtlLiterals.Proofs.Tree.Preorder
import RtlLiterals.Proofs.Tree.Spans
import RtlLiterals.Proofs.Tree.Yield
import RtlLiterals.Proofs.Yaml.BlockScalar
import RtlLiterals.Proofs.Yaml.DoubleQuoted
import RtlLiterals.Proofs.Yaml.Entries
import RtlLiterals.Proofs.Yaml.Gaps
import RtlLiterals.Proofs.Yaml.Keys
import RtlLiterals.Proofs.Yaml.Mapping
import RtlLiterals.Proofs.Yaml.Numbers
import RtlLiterals.Proofs.Yaml.PlainScalar
import RtlLiterals.Proofs.Yaml.SingleQuoted
import RtlLiterals.Proofs.Yaml.Values
import RtlLiterals.Report
import RtlLiterals.Scan
import RtlLiterals.Script
import RtlLiterals.Session
import RtlLiterals.Settings
import RtlLiterals.Settings.Problem
import RtlLiterals.Settings.Reading
import RtlLiterals.Settings.Storage
import RtlLiterals.Settings.Writing
import RtlLiterals.Strategy
import RtlLiterals.Text.Basic
import RtlLiterals.Text.Blank
import RtlLiterals.Text.Case
import RtlLiterals.Text.Digit
import RtlLiterals.Text.Identifier
import RtlLiterals.Text.Position
import RtlLiterals.Text.Quoted
import RtlLiterals.Text.Utf8
import RtlLiterals.Tree.Build
import RtlLiterals.Tree.Cursor
import RtlLiterals.Tree.Document
import RtlLiterals.Tree.Literals
import RtlLiterals.Tree.Node
import RtlLiterals.Yaml.Character
import RtlLiterals.Yaml.Cursor
import RtlLiterals.Yaml.Event
import RtlLiterals.Yaml.Node
import RtlLiterals.Yaml.Problem
import RtlLiterals.Yaml.Scalar
import RtlLiterals.Yaml.Tag
import RtlLiterals.Yaml.Token
import RtlLiterals.Yaml.Value
import RtlLiterals.Yaml.Writing
