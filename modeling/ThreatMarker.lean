import ThreatMarker.Batch.Clock
import ThreatMarker.Batch.File
import ThreatMarker.Batch.Job
import ThreatMarker.Batch.Output
import ThreatMarker.Batch.Pieces
import ThreatMarker.Batch.Settings
import ThreatMarker.Batch.Stats
import ThreatMarker.Cli.Arguments
import ThreatMarker.Cli.BatchReport
import ThreatMarker.Cli.ConfigReport
import ThreatMarker.Cli.Failure
import ThreatMarker.Cli.Input
import ThreatMarker.Cli.LineReport
import ThreatMarker.Cli.Logging
import ThreatMarker.Cli.Palette
import ThreatMarker.Cli.Reach
import ThreatMarker.Cli.RuleReport
import ThreatMarker.Cli.Run
import ThreatMarker.Config.Basic
import ThreatMarker.Config.Encoding
import ThreatMarker.Config.Environment
import ThreatMarker.Config.File
import ThreatMarker.Decimal.Binary64
import ThreatMarker.Decimal.Natural
import ThreatMarker.Decimal.Shortest
import ThreatMarker.Decode.Fault
import ThreatMarker.Decode.Format
import ThreatMarker.Failure
import ThreatMarker.Files.Path
import ThreatMarker.Files.Tree
import ThreatMarker.Gzip.Bits
import ThreatMarker.Gzip.Inflate
import ThreatMarker.Gzip.Member
import ThreatMarker.Json.Decoding
import ThreatMarker.Json.Printer
import ThreatMarker.Json.Reader
import ThreatMarker.Json.Value
import ThreatMarker.Line.Entry
import ThreatMarker.Line.Parser
import ThreatMarker.Line.Processor
import ThreatMarker.Main
import ThreatMarker.Net.Address
import ThreatMarker.Net.Network
import ThreatMarker.Record.Basic
import ThreatMarker.Record.Csv
import ThreatMarker.Regex.Ast
import ThreatMarker.Regex.Basic
import ThreatMarker.Regex.Expr
import ThreatMarker.Regex.Parser
import ThreatMarker.Regex.Positions
import ThreatMarker.Regex.Search
import ThreatMarker.Regex.Size
import ThreatMarker.Rule.Basic
import ThreatMarker.Rule.Builtin
import ThreatMarker.Rule.Decoding
import ThreatMarker.Rule.Encoding
import ThreatMarker.Rule.Engine
import ThreatMarker.Rule.Exclusion
import ThreatMarker.Rule.Fault
import ThreatMarker.Rule.Loader
import ThreatMarker.Rule.Matcher
import ThreatMarker.Text.Cut
import ThreatMarker.Text.Quoted
import ThreatMarker.Text.Utf8
import ThreatMarker.Toml.Decoding
import ThreatMarker.Toml.Printer
import ThreatMarker.Toml.Reader
import ThreatMarker.Toml.Table
import ThreatMarker.Toml.Text
import ThreatMarker.Toml.Time
import ThreatMarker.Toml.Value
import ThreatMarker.Trace.Counters
import ThreatMarker.Trace.Event
import ThreatMarker.Unicode.Blank
import ThreatMarker.Unicode.Category
import ThreatMarker.Unicode.CharSet
import ThreatMarker.Unicode.Folding
import ThreatMarker.Unicode.Packed
import ThreatMarker.Unicode.Property
import ThreatMarker.Unicode.Script
import ThreatMarker.Unicode.Utf8Ranges
import ThreatMarker.Yaml.Atom
import ThreatMarker.Yaml.Cursor
import ThreatMarker.Yaml.Decoding
import ThreatMarker.Yaml.Event
import ThreatMarker.Yaml.Markup
import ThreatMarker.Yaml.Node
import ThreatMarker.Yaml.Scalar
import ThreatMarker.Yaml.Token
import ThreatMarker.Proofs.Line.Combined
import ThreatMarker.Proofs.Batch.Lines
import ThreatMarker.Proofs.Regex.Spans
import ThreatMarker.Proofs.Rule.Compiled
import ThreatMarker.Proofs.Rule.Meaning
import ThreatMarker.Rule.Session
import ThreatMarker.Proofs.Rule.History
import ThreatMarker.Proofs.Regex.Without
import ThreatMarker.Proofs.Rule.Builtin
import ThreatMarker.Proofs.Files.Listing
import ThreatMarker.Proofs.Rule.Directory
import ThreatMarker.Proofs.Files.Growth
import ThreatMarker.Proofs.Batch.Run
import ThreatMarker.Proofs.Cli.Agreement
import ThreatMarker.Proofs.Record.Csv
import ThreatMarker.Proofs.Line.Rendering
import ThreatMarker.Proofs.Batch.Limit
import ThreatMarker.Proofs.Cli.Validation
import ThreatMarker.Proofs.Net.Networks
import ThreatMarker.Proofs.Rule.Exclusions
import ThreatMarker.Proofs.Rule.Acceptance
import ThreatMarker.Proofs.Rule.Arrangement
import ThreatMarker.Proofs.Batch.Counters
import ThreatMarker.Proofs.Config.Layers
import ThreatMarker.Proofs.Files.Parts
import ThreatMarker.Proofs.Rule.Faults
import ThreatMarker.Proofs.Batch.Containment
import ThreatMarker.Proofs.Cli.Settings
import ThreatMarker.Proofs.Json.Order
import ThreatMarker.Proofs.Rule.Encoding
