import CodeBridge.Candidate
import CodeBridge.Engine.Basic
import CodeBridge.Engine.Script
import CodeBridge.Engine.Workspace
import CodeBridge.Files.Access
import CodeBridge.Files.Path
import CodeBridge.Files.Tree
import CodeBridge.Json.Number
import CodeBridge.Json.Reader
import CodeBridge.Json.Record
import CodeBridge.Json.Sorted
import CodeBridge.Json.Value
import CodeBridge.Json.Writer
import CodeBridge.Main
import CodeBridge.Numeric.Binary64
import CodeBridge.Numeric.Shortest
import CodeBridge.Proofs.Answer
import CodeBridge.Proofs.Completion.Entries
import CodeBridge.Proofs.Completion.MethodCall
import CodeBridge.Proofs.Completion.Snippet
import CodeBridge.Proofs.Completion.Typing
import CodeBridge.Proofs.Engine.BuildOrder
import CodeBridge.Proofs.Engine.Elsewhere
import CodeBridge.Proofs.Engine.Links
import CodeBridge.Proofs.Engine.Lookup
import CodeBridge.Proofs.Engine.Nodes
import CodeBridge.Proofs.Engine.Tables
import CodeBridge.Proofs.Files.Ancestors
import CodeBridge.Proofs.Json.Literal
import CodeBridge.Proofs.Json.Record
import CodeBridge.Proofs.Json.RoundTrip
import CodeBridge.Proofs.Request.Access
import CodeBridge.Proofs.Request.Cursor
import CodeBridge.Proofs.Request.Definition
import CodeBridge.Proofs.Request.Degradation
import CodeBridge.Proofs.Request.Failure
import CodeBridge.Proofs.Request.Growth
import CodeBridge.Proofs.Request.Highlight
import CodeBridge.Proofs.Request.Injection
import CodeBridge.Proofs.Request.Locality
import CodeBridge.Proofs.Request.Merging
import CodeBridge.Proofs.Request.Occurrences
import CodeBridge.Proofs.Request.UseOrder
import CodeBridge.Proofs.Server.Outcome
import CodeBridge.Proofs.Server.Run
import CodeBridge.Proofs.Server.Transcript
import CodeBridge.Proofs.Settings.Failure
import CodeBridge.Proofs.Settings.Leaves
import CodeBridge.Proofs.Settings.Loading
import CodeBridge.Proofs.Settings.Merging
import CodeBridge.Proofs.Settings.Nearest
import CodeBridge.Proofs.Settings.Precedence
import CodeBridge.Proofs.Settings.Reuse
import CodeBridge.Proofs.Snapshot.Acceptance
import CodeBridge.Proofs.Snapshot.RoundTrip
import CodeBridge.Proofs.Text.LineTable
import CodeBridge.Proofs.Text.PlainScan
import CodeBridge.Proofs.Text.PositionOrder
import CodeBridge.Request.Completion
import CodeBridge.Request.Definition
import CodeBridge.Request.Error
import CodeBridge.Request.Highlight
import CodeBridge.Request.Usages
import CodeBridge.Server.Conversation
import CodeBridge.Server.Launch
import CodeBridge.Server.Request
import CodeBridge.Server.Session
import CodeBridge.Server.Shape
import CodeBridge.Server.Wire
import CodeBridge.Settings.Basic
import CodeBridge.Settings.Decode
import CodeBridge.Settings.Loader
import CodeBridge.Snapshot.Basic
import CodeBridge.Snapshot.Decode
import CodeBridge.Snapshot.Encode
import CodeBridge.Snapshot.Load
import CodeBridge.Symbol
import CodeBridge.Text.Alphanumeric
import CodeBridge.Text.HexDigit
import CodeBridge.Text.Identifier
import CodeBridge.Text.LineIndex
import CodeBridge.Text.Runs
import CodeBridge.Text.Span
import CodeBridge.Text.Units
import CodeBridge.Toml.Document
import CodeBridge.Toml.Reader
import CodeBridge.Toml.Scalar
import CodeBridge.Toml.Value
import CodeBridge.Unicode.CombiningClass
import CodeBridge.Unicode.Composition
import CodeBridge.Unicode.Direction
import CodeBridge.Unicode.Joining
import CodeBridge.Unicode.Mark
import CodeBridge.Unicode.Table
import CodeBridge.Uri.Basic
import CodeBridge.Uri.Domain
import CodeBridge.Uri.Domain.Fold
import CodeBridge.Uri.Domain.Label
import CodeBridge.Uri.Domain.Punycode
import CodeBridge.Uri.Error
import CodeBridge.Uri.Host
import CodeBridge.Uri.Ipv4
import CodeBridge.Uri.Ipv6
import CodeBridge.Uri.Parse
import CodeBridge.Uri.Path
import CodeBridge.Uri.Percent
