import PlaybookServer.Completion.Candidate
import PlaybookServer.Completion.Complete
import PlaybookServer.Completion.Cursor
import PlaybookServer.Completion.Variables
import PlaybookServer.Container.Cache
import PlaybookServer.Container.Engine
import PlaybookServer.Container.Environment
import PlaybookServer.Container.Session
import PlaybookServer.Decimal.Read
import PlaybookServer.Decimal.Shortest
import PlaybookServer.Diagnostic.Codec
import PlaybookServer.Diagnostic.Ledger
import PlaybookServer.Diagnostic.Model
import PlaybookServer.Diagnostic.Structural
import PlaybookServer.Docs.Library
import PlaybookServer.Docs.Routing
import PlaybookServer.Docs.Schema
import PlaybookServer.Docs.Source
import PlaybookServer.Document.Lowering
import PlaybookServer.Document.Node
import PlaybookServer.Document.Path
import PlaybookServer.Document.Scalar
import PlaybookServer.Effect.Deferred
import PlaybookServer.Effect.Jobs
import PlaybookServer.Effect.Program
import PlaybookServer.Effect.Query
import PlaybookServer.Files.Disk
import PlaybookServer.Files.Path
import PlaybookServer.Files.Tree
import PlaybookServer.Files.View
import PlaybookServer.Inspect.Findings
import PlaybookServer.Inspect.Library
import PlaybookServer.Inspect.Tree
import PlaybookServer.Inspect.World
import PlaybookServer.Json.Cursor
import PlaybookServer.Json.Decode
import PlaybookServer.Json.Printer
import PlaybookServer.Json.Shape
import PlaybookServer.Json.Stream
import PlaybookServer.Json.Value
import PlaybookServer.Lint.Config
import PlaybookServer.Lint.Report
import PlaybookServer.Lint.Run
import PlaybookServer.Lint.SyntaxCheck
import PlaybookServer.Main
import PlaybookServer.Playbook.Keywords
import PlaybookServer.Playbook.Structure
import PlaybookServer.Proofs.Diagnostic.Ledger
import PlaybookServer.Proofs.Diagnostic.Table
import PlaybookServer.Server.Capabilities
import PlaybookServer.Server.Dispatch
import PlaybookServer.Server.Frame
import PlaybookServer.Server.Handlers
import PlaybookServer.Server.Item
import PlaybookServer.Server.Outgoing
import PlaybookServer.Server.Params
import PlaybookServer.Server.Protocol
import PlaybookServer.Server.Requests
import PlaybookServer.Server.State
import PlaybookServer.Settings.Model
import PlaybookServer.Simulation.Client
import PlaybookServer.Simulation.Script
import PlaybookServer.Simulation.Shell.Builtin
import PlaybookServer.Simulation.Shell.Condition
import PlaybookServer.Simulation.Shell.Format
import PlaybookServer.Simulation.Shell.Machine
import PlaybookServer.Simulation.Shell.Pattern
import PlaybookServer.Simulation.Shell.Programs
import PlaybookServer.Simulation.Shell.Run
import PlaybookServer.Simulation.Shell.Script
import PlaybookServer.Simulation.Shell.Signal
import PlaybookServer.Simulation.Shell.Sum
import PlaybookServer.Simulation.Shell.Word
import PlaybookServer.Simulation.World
import PlaybookServer.Source.Automaton
import PlaybookServer.Source.Characters
import PlaybookServer.Source.Concrete
import PlaybookServer.Source.Grammar
import PlaybookServer.Source.Kind
import PlaybookServer.Source.Layout
import PlaybookServer.Source.Parse
import PlaybookServer.Source.Piece
import PlaybookServer.Source.Scanner
import PlaybookServer.Source.Stack
import PlaybookServer.Source.Token
import PlaybookServer.Text.Blank
import PlaybookServer.Text.Bytes
import PlaybookServer.Text.CodeTable
import PlaybookServer.Text.Composition
import PlaybookServer.Text.Digit
import PlaybookServer.Text.Escaped
import PlaybookServer.Text.LineMap
import PlaybookServer.Text.Lines
import PlaybookServer.Text.Span
import PlaybookServer.Tool.Discovery
import PlaybookServer.Tool.Lookup
import PlaybookServer.Tool.Runner
import PlaybookServer.Tool.Shell
import PlaybookServer.Url.Address
import PlaybookServer.Url.File
import PlaybookServer.Url.Name.Ascii
import PlaybookServer.Url.Name.Direction
import PlaybookServer.Url.Name.Joining
import PlaybookServer.Url.Name.Mapping
import PlaybookServer.Url.Name.Punycode
import PlaybookServer.Url.Parse
import PlaybookServer.Url.Percent
import PlaybookServer.Workspace.Context
import PlaybookServer.Workspace.Folder
import PlaybookServer.Workspace.RoleMetadata
import PlaybookServer.Workspace.State
import PlaybookServer.Yaml.Decode
import PlaybookServer.Yaml.Event
import PlaybookServer.Yaml.Lexer
import PlaybookServer.Yaml.Mark
import PlaybookServer.Yaml.Token
import PlaybookServer.Yaml.Value
import PlaybookServer.Yaml.Writer
import PlaybookServer.Proofs.Diagnostic.Overlap
import PlaybookServer.Proofs.Effect.Program
import PlaybookServer.Proofs.Effect.Interleaving
import PlaybookServer.Proofs.Workspace.FullPass
import PlaybookServer.Proofs.Server.Overtaking
import PlaybookServer.Proofs.Server.Publication
import PlaybookServer.Proofs.Server.Succession
import PlaybookServer.Proofs.Effect.Deferred
import PlaybookServer.Proofs.Tool.Commands
import PlaybookServer.Proofs.Docs.Resolution
import PlaybookServer.Proofs.Docs.Names
import PlaybookServer.Proofs.Completion.SortText
import PlaybookServer.Proofs.Effect.Conversation
import PlaybookServer.Proofs.Container.Teardown
import PlaybookServer.Proofs.Container.Sharing
import PlaybookServer.Proofs.Document.Forest
import PlaybookServer.Proofs.Document.Lowering
import PlaybookServer.Proofs.Document.Reading
import PlaybookServer.Proofs.Effect.History
import PlaybookServer.Proofs.Effect.Epochs
import PlaybookServer.Proofs.Container.SetUp
import PlaybookServer.Proofs.Workspace.Freshness
import PlaybookServer.Proofs.Document.Path
import PlaybookServer.Proofs.Text.Boundary
import PlaybookServer.Proofs.Text.LineMap
import PlaybookServer.Proofs.Effect.Alone
import PlaybookServer.Proofs.Lint.Findings
import PlaybookServer.Proofs.Workspace.Validation
import PlaybookServer.Proofs.Effect.Timeline
import PlaybookServer.Proofs.Settings.Payload
import PlaybookServer.Proofs.Text.Bytes
import PlaybookServer.Proofs.Text.Pieces
import PlaybookServer.Proofs.Url.File
import PlaybookServer.Proofs.Workspace.OwnFindings
import PlaybookServer.Proofs.Workspace.Routing
import PlaybookServer.Proofs.Effect.Traffic
import PlaybookServer.Proofs.Server.Requests
import PlaybookServer.Proofs.Server.Supersession
import PlaybookServer.Proofs.Completion.Keys
import PlaybookServer.Proofs.Completion.Edit
import PlaybookServer.Proofs.Files.Path
import PlaybookServer.Proofs.Workspace.Caches
import PlaybookServer.Proofs.Container.Isolation
import PlaybookServer.Proofs.Workspace.Isolation
import PlaybookServer.Proofs.Tool.Words
import PlaybookServer.Proofs.Document.Ancestry
import PlaybookServer.Proofs.Playbook.Enclosure
import PlaybookServer.Proofs.Completion.Options
import PlaybookServer.Proofs.Completion.Variables
import PlaybookServer.Proofs.Container.Options
import PlaybookServer.Proofs.Lint.Report
import PlaybookServer.Proofs.Playbook.Collections
import PlaybookServer.Proofs.Document.Repeats
import PlaybookServer.Proofs.Document.Mentions
import PlaybookServer.Proofs.Document.Faults
import PlaybookServer.Proofs.Text.Trim
import PlaybookServer.Proofs.Document.BlockScalar
import PlaybookServer.Proofs.Document.Chomping
import PlaybookServer.Proofs.Document.Folding
import PlaybookServer.Proofs.Document.Quoted
import PlaybookServer.Proofs.Tool.Activation
import PlaybookServer.Proofs.Workspace.RoleFiles
import PlaybookServer.Proofs.Completion.Values
import PlaybookServer.Proofs.Json.TextList
import PlaybookServer.Proofs.Tool.ListLiteral
import PlaybookServer.Proofs.Docs.Redirects
import PlaybookServer.Proofs.Files.Ancestors
import PlaybookServer.Proofs.Lint.Config
import PlaybookServer.Proofs.Document.SyntaxFaults
import PlaybookServer.Proofs.Playbook.Trace
