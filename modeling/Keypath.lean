import Keypath.Anchor
import Keypath.Completion
import Keypath.Definition
import Keypath.Disk
import Keypath.Domain.Basic
import Keypath.Domain.Direction
import Keypath.Domain.Joining
import Keypath.Domain.Mapping
import Keypath.Domain.Mark
import Keypath.Domain.Punycode
import Keypath.Exchange
import Keypath.Fraction
import Keypath.Json.Basic
import Keypath.Json.Form
import Keypath.Json.Number
import Keypath.Json.Reader
import Keypath.Log
import Keypath.Main
import Keypath.Path
import Keypath.Program
import Keypath.Proofs.Candidates
import Keypath.Proofs.Correspondence
import Keypath.Proofs.Exports
import Keypath.Proofs.FileTable
import Keypath.Proofs.Flattening
import Keypath.Proofs.Hops
import Keypath.Proofs.Identifier
import Keypath.Proofs.Indexing
import Keypath.Proofs.InsertionOrder
import Keypath.Proofs.Isolation
import Keypath.Proofs.ItemOrder
import Keypath.Proofs.Layout
import Keypath.Proofs.Normalization
import Keypath.Proofs.Outline
import Keypath.Proofs.Place
import Keypath.Proofs.PreviousToken
import Keypath.Proofs.Probe
import Keypath.Proofs.Relocation
import Keypath.Proofs.Schema.Budget
import Keypath.Proofs.Schema.Calls
import Keypath.Proofs.Schema.Cycles
import Keypath.Proofs.Schema.EntryShape
import Keypath.Proofs.Schema.Grammar
import Keypath.Proofs.Schema.Induction
import Keypath.Proofs.Schema.Inheritance
import Keypath.Proofs.Schema.Meaning
import Keypath.Proofs.Schema.Once
import Keypath.Proofs.Schema.Parts
import Keypath.Proofs.Schema.Precedence
import Keypath.Proofs.Schema.Provenance
import Keypath.Proofs.Schema.Record
import Keypath.Proofs.Schema.Repetition
import Keypath.Proofs.Schema.Requests
import Keypath.Proofs.Schema.Run
import Keypath.Proofs.Schema.Simulation
import Keypath.Proofs.Schema.Termination
import Keypath.Proofs.Schema.Visitors
import Keypath.Proofs.Server.Documents
import Keypath.Proofs.Server.Steps
import Keypath.Proofs.Sites
import Keypath.Proofs.Tables
import Keypath.Proofs.Walk
import Keypath.Report
import Keypath.Schema.Basic
import Keypath.Schema.Expansion
import Keypath.Schema.WrittenType
import Keypath.Server.Capabilities
import Keypath.Server.Message
import Keypath.Server.Params
import Keypath.Server.State
import Keypath.Server.Wire
import Keypath.Settings
import Keypath.Snapshot
import Keypath.Source
import Keypath.Suggestion
import Keypath.Table
import Keypath.Text.CodePoints
import Keypath.Text.Composition
import Keypath.Text.Hex
import Keypath.Text.Invisible
import Keypath.Text.Quoted
import Keypath.Text.Slice
import Keypath.Text.Utf8
import Keypath.Tree.Kind
import Keypath.Tree.Node
import Keypath.Tree.Position
import Keypath.Tree.Rows
import Keypath.Tree.Shape
import Keypath.Uri.Address
import Keypath.Uri.Basic
import Keypath.Uri.Host
import Keypath.Uri.Percent
import Keypath.Uri.Reader
import Keypath.Uri.Segments
import Keypath.Usage
import Keypath.Workspace
