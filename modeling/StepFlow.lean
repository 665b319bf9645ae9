import StepFlow.Catalog
import StepFlow.Catalog.Manifest
import StepFlow.Command.Invocation
import StepFlow.Command.Run
import StepFlow.Command.Word
import StepFlow.Diagnostic
import StepFlow.Digest
import StepFlow.Document.Graphs
import StepFlow.Document.Nodes
import StepFlow.Document.Routes
import StepFlow.Document.Schema
import StepFlow.Document.Text
import StepFlow.Edit.Anchor
import StepFlow.Edit.Delete
import StepFlow.Edit.Draft
import StepFlow.Edit.Ids
import StepFlow.Edit.Insert
import StepFlow.Edit.Options
import StepFlow.Edit.Plan
import StepFlow.Edit.Rewire
import StepFlow.Edit.Update
import StepFlow.Failure
import StepFlow.Fault
import StepFlow.Files.Path
import StepFlow.Files.Tree
import StepFlow.Files.Versions
import StepFlow.Flow.ComponentKey
import StepFlow.Flow.Graph
import StepFlow.Flow.Node
import StepFlow.Flow.Route
import StepFlow.Host
import StepFlow.Json.Reader
import StepFlow.Json.Writer
import StepFlow.Main
import StepFlow.Number.Digits
import StepFlow.Number.Double
import StepFlow.Number.Shortest
import StepFlow.Report
import StepFlow.Settings
import StepFlow.Text.Base64
import StepFlow.Text.Blank
import StepFlow.Text.Cased
import StepFlow.Text.CharSet
import StepFlow.Text.Digit
import StepFlow.Text.Lower
import StepFlow.Text.Printable
import StepFlow.Text.Quoted
import StepFlow.Text.Split
import StepFlow.Text.Surrogate
import StepFlow.Text.Utf8
import StepFlow.Text.Word
import StepFlow.Validity
import StepFlow.Value.Basic
import StepFlow.Value.Calendar
import StepFlow.Value.Keyed
import StepFlow.Value.Scalar
import StepFlow.Warning
import StepFlow.Yaml.Cursor
import StepFlow.Yaml.Fault
import StepFlow.Yaml.Lexer
import StepFlow.Yaml.Lexer.Block
import StepFlow.Yaml.Lexer.Plain
import StepFlow.Yaml.Lexer.Property
import StepFlow.Yaml.Lexer.Quoted
import StepFlow.Yaml.Node
import StepFlow.Yaml.Number
import StepFlow.Yaml.Pen
import StepFlow.Yaml.Reading
import StepFlow.Yaml.Sketch
import StepFlow.Yaml.Style
import StepFlow.Yaml.Tag
import StepFlow.Yaml.Token
import StepFlow.Yaml.Writer
import StepFlow.Proofs.Flow.Lookup
import StepFlow.Proofs.Flow.Paths
import StepFlow.Proofs.Flow.Substitution
import StepFlow.Proofs.Edit.Deletion
import StepFlow.Proofs.Edit.Planning
import StepFlow.Proofs.Edit.Insertion
import StepFlow.Proofs.Edit.Takeover
import StepFlow.Proofs.Edit.Undo
import StepFlow.Proofs.Edit.Placement
import StepFlow.Proofs.Document.Rules
import StepFlow.Proofs.Document.Routing
import StepFlow.Proofs.Document.Rereading
import StepFlow.Proofs.Edit.Closure
import StepFlow.Proofs.Edit.Session
import StepFlow.Proofs.Value.Fields
import StepFlow.Proofs.Value.Merging
import StepFlow.Proofs.Document.Nodes
import StepFlow.Proofs.Document.Graphs
import StepFlow.Proofs.Document.Projection
import StepFlow.Proofs.Edit.Naming
import StepFlow.Proofs.Text.Cutting
import StepFlow.Proofs.Edit.Numbering
import StepFlow.Proofs.Edit.Representation
import StepFlow.Proofs.Edit.Applicability
import StepFlow.Proofs.Edit.Validity
import StepFlow.Proofs.Edit.DraftForms
import StepFlow.Proofs.Edit.DraftNodes
import StepFlow.Proofs.Flow.Findings
import StepFlow.Proofs.Json.Trails
import StepFlow.Proofs.Json.Trimming
import StepFlow.Proofs.Edit.OptionRules
import StepFlow.Proofs.Edit.Splicing
import StepFlow.Proofs.Edit.Removal
import StepFlow.Proofs.Edit.Independence
import StepFlow.Proofs.Edit.Revision
import StepFlow.Proofs.Edit.Requirements
import StepFlow.Proofs.Edit.Savability
import StepFlow.Proofs.Edit.Capture
import StepFlow.Proofs.Edit.EntryRouting
import StepFlow.Proofs.Edit.Expansion
import StepFlow.Proofs.Document.Acceptance
import StepFlow.Proofs.Files.Changes
import StepFlow.Proofs.Files.Places
import StepFlow.Proofs.Files.Saving
import StepFlow.Proofs.Files.Versions
import StepFlow.Proofs.Files.Clients
import StepFlow.Proofs.Files.Rewriting
import StepFlow.Proofs.Files.Replacing
import StepFlow.Proofs.Catalog.Loading
import StepFlow.Proofs.Catalog.Skipping
import StepFlow.Proofs.Command.Arguments
import StepFlow.Proofs.Command.Steps
import StepFlow.Proofs.Command.Validation
import StepFlow.Proofs.Command.DryRun
import StepFlow.Proofs.Command.Verdict
