import SpecTrace.Audit.Fault
import SpecTrace.Audit.Severity
import SpecTrace.Bundle.Bundle
import SpecTrace.Bundle.Insertion
import SpecTrace.Bundle.Provenance
import SpecTrace.Bundle.Walk
import SpecTrace.Command.Arguments
import SpecTrace.Command.Command
import SpecTrace.Command.Run
import SpecTrace.Discovery.Discovery
import SpecTrace.Discovery.Glob
import SpecTrace.Discovery.Matching
import SpecTrace.Document.Address
import SpecTrace.Document.Format
import SpecTrace.Document.JsonText
import SpecTrace.Document.Node
import SpecTrace.Document.SyntaxError
import SpecTrace.Host.Address
import SpecTrace.Host.CombiningClass
import SpecTrace.Host.Composite
import SpecTrace.Host.Composition
import SpecTrace.Host.Direction
import SpecTrace.Host.Host
import SpecTrace.Host.Joining
import SpecTrace.Host.Mapping.Forbidden
import SpecTrace.Host.Mapping.Letters
import SpecTrace.Host.Mapping.Sequences
import SpecTrace.Host.Mapping.Shifts
import SpecTrace.Host.Mark
import SpecTrace.Json.Number
import SpecTrace.Json.Printer
import SpecTrace.Json.Raw
import SpecTrace.Json.Value
import SpecTrace.Locate.Issue
import SpecTrace.Locate.Locator
import SpecTrace.Locate.Rendering
import SpecTrace.Locate.Sarif
import SpecTrace.Main
import SpecTrace.Markup.Lexer
import SpecTrace.Markup.Position
import SpecTrace.Markup.Scalar
import SpecTrace.Markup.Token
import SpecTrace.Markup.Tree
import SpecTrace.Number.Binary64
import SpecTrace.Number.Decimal
import SpecTrace.OpenApi.Version
import SpecTrace.Path.Components
import SpecTrace.Path.Name
import SpecTrace.Pointer
import SpecTrace.Reference.Reference
import SpecTrace.Reference.Url
import SpecTrace.Report.Assessment
import SpecTrace.Report.Number
import SpecTrace.Report.Reading
import SpecTrace.Settings.Content
import SpecTrace.Settings.Sections
import SpecTrace.Settings.Settings
import SpecTrace.Text.Cursor
import SpecTrace.Text.DebugText
import SpecTrace.Text.Hidden
import SpecTrace.Text.LineIndex
import SpecTrace.Text.Order
import SpecTrace.Text.Percent
import SpecTrace.Text.Punycode
import SpecTrace.Text.CharacterClass
import SpecTrace.Text.Utf8
import SpecTrace.Workspace.FileTree
import SpecTrace.Workspace.Session
import SpecTrace.Workspace.Writing
import SpecTrace.Yaml.Block
import SpecTrace.Yaml.BlockScalar
import SpecTrace.Yaml.CoreSchema
import SpecTrace.Yaml.Flow
import SpecTrace.Yaml.Layout
import SpecTrace.Yaml.PlainScalar
import SpecTrace.Yaml.Printer
import SpecTrace.Yaml.Properties
import SpecTrace.Yaml.Quoted
import SpecTrace.Yaml.ScalarStyle
import SpecTrace.Yaml.WideSchema
import SpecTrace.Proofs.Members
import SpecTrace.Proofs.Outcome
import SpecTrace.Proofs.Workspace
import SpecTrace.Proofs.Document.Children
import SpecTrace.Proofs.Bundle.Loading
import SpecTrace.Proofs.Bundle.Walked
import SpecTrace.Proofs.Bundle.Runs
import SpecTrace.Proofs.Bundle.Steps
import SpecTrace.Proofs.Bundle.Invariants
import SpecTrace.Proofs.Bundle.Placing
import SpecTrace.Proofs.Bundle.Failures
import SpecTrace.Proofs.Bundle.Built
import SpecTrace.Proofs.Bundle.Separation
import SpecTrace.Proofs.Bundle.Copy
import SpecTrace.Proofs.Text.Cursor
import SpecTrace.Proofs.Document.Reading
import SpecTrace.Proofs.Yaml.Scalars
import SpecTrace.Proofs.Yaml.Reading
import SpecTrace.Proofs.Workspace.Sources
import SpecTrace.Proofs.Document.Keys
import SpecTrace.Proofs.Bundle.Termination
import SpecTrace.Proofs.Text.Utf8
import SpecTrace.Proofs.Bundle.Provenance
import SpecTrace.Proofs.Pointer.Fragment
import SpecTrace.Proofs.Bundle.Below
import SpecTrace.Proofs.Bundle.Spelled
import SpecTrace.Proofs.Bundle.Contained
import SpecTrace.Proofs.Bundle.SingleFile
import SpecTrace.Proofs.Bundle.LongestPrefix
import SpecTrace.Proofs.Bundle.Insertions
import SpecTrace.Proofs.Bundle.Parts
import SpecTrace.Proofs.Bundle.Attribution
import SpecTrace.Proofs.Bundle.Ways
import SpecTrace.Proofs.Bundle.Visible
import SpecTrace.Proofs.Bundle.Written
import SpecTrace.Proofs.Bundle.RootKept
import SpecTrace.Proofs.Bundle.TrueRecords
import SpecTrace.Proofs.Text.Lines
import SpecTrace.Proofs.Workspace.Places
import SpecTrace.Proofs.Locate.Locating
import SpecTrace.Proofs.Locate.Moved
import SpecTrace.Proofs.Locate.Values
import SpecTrace.Proofs.Text.Passing
import SpecTrace.Proofs.Json.Grammar
import SpecTrace.Proofs.Number.DecimalForm
import SpecTrace.Proofs.Number.Spelling
import SpecTrace.Proofs.Json.Strings
import SpecTrace.Proofs.Json.Leaves
import SpecTrace.Proofs.Json.Proper
import SpecTrace.Proofs.Json.Values
import SpecTrace.Proofs.Json.Escapes
import SpecTrace.Proofs.Number.Shortest
import SpecTrace.Proofs.Number.Written
import SpecTrace.Proofs.Json.Printing
import SpecTrace.Proofs.Yaml.CoreSchema
import SpecTrace.Proofs.Yaml.PlainText
import SpecTrace.Proofs.Yaml.FlowValues
import SpecTrace.Proofs.Yaml.InlineValues
import SpecTrace.Proofs.Yaml.Documents
import SpecTrace.Proofs.Yaml.BlockEntries
import SpecTrace.Proofs.Yaml.BlockReading
import SpecTrace.Proofs.Bundle.Parallel
import SpecTrace.Proofs.Audit.Steps
import SpecTrace.Proofs.Audit.Snapshot
import SpecTrace.Proofs.Audit.Transparency
import SpecTrace.Proofs.Locate.Order
import SpecTrace.Proofs.Locate.Findings
import SpecTrace.Proofs.Locate.Indices
import SpecTrace.Proofs.Respelling.Lines
import SpecTrace.Proofs.Respelling.Positions
import SpecTrace.Proofs.Respelling.Layout
import SpecTrace.Proofs.Respelling.Nodes
import SpecTrace.Proofs.Respelling.Json
import SpecTrace.Proofs.Yaml.FoldedText
import SpecTrace.Proofs.Respelling.Scalars
import SpecTrace.Proofs.Respelling.Flow
import SpecTrace.Proofs.Respelling.Block
import SpecTrace.Proofs.Respelling.Documents
import SpecTrace.Proofs.Document.LineEndings
import SpecTrace.Proofs.Document.Spans
import SpecTrace.Proofs.Document.ByteOrderMark
import SpecTrace.Proofs.Pointer.EncodedBytes
import SpecTrace.Proofs.Pointer.PlainForm
import SpecTrace.Proofs.Document.Addressing
import SpecTrace.Proofs.Text.Boundaries
import SpecTrace.Proofs.Yaml.PlacedNodes
import SpecTrace.Proofs.Json.Parts
import SpecTrace.Proofs.Json.Cuts
import SpecTrace.Proofs.Document.Faults
import SpecTrace.Proofs.Json.Faults
import SpecTrace.Proofs.Yaml.ScalarSpans
import SpecTrace.Proofs.Yaml.Placement
import SpecTrace.Proofs.Document.Offsets
import SpecTrace.Proofs.Text.Order
import SpecTrace.Proofs.Discovery.Listing
import SpecTrace.Proofs.Discovery.Matching
import SpecTrace.Proofs.Discovery.Coverage
import SpecTrace.Proofs.Discovery.Search
import SpecTrace.Proofs.Path.Order
import SpecTrace.Proofs.Settings.Mapping
import SpecTrace.Proofs.Settings.Entries
import SpecTrace.Proofs.Discovery.Mapped
import SpecTrace.Proofs.Path.Moved
import SpecTrace.Proofs.Reference.Files
import SpecTrace.Proofs.Reference.Relative
import SpecTrace.Proofs.Workspace.Moved
import SpecTrace.Proofs.Bundle.PlacedStates
import SpecTrace.Proofs.Bundle.Carried
import SpecTrace.Proofs.Document.Nesting
import SpecTrace.Proofs.Yaml.Nesting
import SpecTrace.Proofs.Yaml.BlockLines
import SpecTrace.Proofs.Yaml.LiteralText
import SpecTrace.Proofs.Yaml.FoldedLines
import SpecTrace.Proofs.Yaml.QuotedParts
import SpecTrace.Proofs.Yaml.DoubleQuoted
