import StepFlow.Diagnostic
import StepFlow.Value.Basic

/-! Why a document or an edit is refused. Each fault is a cause with its subject; its
wording and its place in the document are functions of it. -/
namespace StepFlow

/-- Whom a fault about a node concerns: a node of the document, or one that has yet to be
inserted. -/
inductive Subject where
  | node (id : Scalar)
  | draft
  deriving DecidableEq

/-- Why a description is no node, or why an override does not fit a node. -/
inductive ShapeFault where
  | notMapping
  | notString (key : String)
  | keyCount (found : List String)
  | operationMissing
  | questionsNotMapping
  | templateNotString
  | toolNotMapping
  | toolComponentMissing
  | toolAmbiguous (component : String)
  | operationEmpty
  | operationOnOther
  /-- Only the routing of this kind of node can be changed. -/
  | routingOnly (kind : String)
  /-- The component key does not have the form of one. -/
  | badKey (key : String)
  deriving DecidableEq

inductive RoutingFault where
  | notList
  | entryNotMapping
  | unsupportedKey (key : Scalar)
  | notString (key : String)
  | notBool (key : String)
  | unknownWord (word : String)
  | unknownOverride (word : String)
  | placeholderMissing
  | noTargets
  | exclusive (options : List String)
  | notJson (reason : String)
  | notArgument (reason : String)
  /-- A new route leads back to the anchor. -/
  | cycle (anchor : Scalar)
  /-- The anchor already leads to itself. -/
  | anchorCycle (anchor : Scalar)
  deriving DecidableEq

/-- Where routing was given: at a node, with a node to insert, or as an option. -/
inductive RoutingPlace where
  | node (id : Scalar)
  | draft
  | option
  deriving DecidableEq

/-- A rule of documents that a value breaks, and where. -/
structure Violation where
  message : String
  pointer : String
  deriving DecidableEq

inductive FlowFault where
  /-- The text is no document; the place counts from one. -/
  | document (problem label : String) (place : Option (Nat × Nat))
  | schema (violations : List Violation) (label : String)
  | shape (fault : ShapeFault) (subject : Subject)
  | routing (fault : RoutingFault) (place : RoutingPlace)
  | anchorNotFound (anchor : Scalar)
  | nodeNotFound (id : Scalar)
  | nodeExists (id : Scalar)
  | multiplePredecessors (id : Scalar) (predecessors : List Scalar)
  | diagnostics (findings : List Diagnostic) (location : Option String)
  /-- The file does not hold the version that was read. -/
  | changed (path expected actual : String)
  deriving DecidableEq

/-- The name of a node that has yet to be inserted. -/
def draftName : String := "add_step"

def Subject.id : Subject → Scalar
  | node id => id
  | draft => .str draftName

def ShapeFault.message (subject : Subject) : ShapeFault → String
  | notMapping =>
    match subject with
    | .node id => s!"node '{id.text}' must be a mapping"
    | .draft => "node must be an object"
  | notString key => s!"{key} must be a string"
  | keyCount found =>
    match subject with
    | .node id =>
      s!"Node '{id.text}' must contain exactly one component key like 'qa.process' " ++
        "plus optional 'routing'"
    | .draft =>
      if found.isEmpty then "node must contain a component key"
      else "node must have exactly one component key (found: " ++ ", ".intercalate found ++ ")"
  | operationMissing =>
    match subject with
    | .node id => s!"node '{id.text}' missing operation key"
    | .draft => "component.exec requires a non-empty operation"
  | questionsNotMapping => "questions node must be a mapping"
  | templateNotString => "template node must be a string"
  | toolNotMapping => "tool must be an object"
  | toolComponentMissing => "tool.component must be a non-empty string"
  | toolAmbiguous component =>
    s!"ambiguous component '{component}': given both inside tool and as a node key"
  | operationEmpty => "operation must not be empty"
  | operationOnOther =>
    s!"node '{subject.id.text}' is not a component node; operation cannot be set"
  | routingOnly kind =>
    s!"node '{subject.id.text}' is a {kind} node; only routing can be updated"
  | badKey key =>
    s!"Invalid component key '{key}' in node '{subject.id.text}' " ++
      "(must match ^[A-Za-z][\\w.-]*\\.[\\w.-]+$)"

/-- The part of the node that the fault is about. -/
def ShapeFault.part (subject : Subject) : ShapeFault → String
  | notString key => "." ++ key
  | operationMissing =>
    match subject with
    | .node _ => ""
    | .draft => ".operation"
  | questionsNotMapping => ".questions"
  | templateNotString => ".template"
  | toolNotMapping => ".tool"
  | toolComponentMissing => ".tool.component"
  | toolAmbiguous _ => ".tool.component"
  | operationEmpty => ".operation"
  | operationOnOther => ".operation"
  | _ => ""

def ShapeFault.location (subject : Subject) (fault : ShapeFault) : String :=
  match subject with
  | .node id => s!"nodes.{id.text}{fault.part subject}"
  | .draft => "node" ++ fault.part subject

def RoutingFault.message : RoutingFault → String
  | notList => "routing must be an array"
  | entryNotMapping => "routing entries must be objects"
  | unsupportedKey key => s!"unsupported routing key '{key.text}'"
  | notString key => s!"routing '{key}' must be a string"
  | notBool key => s!"routing '{key}' must be a boolean"
  | unknownWord word => s!"unsupported routing shorthand '{word}'"
  | unknownOverride word =>
    s!"unsupported routing shorthand '{word}' (use exit, out or reply)"
  | placeholderMissing =>
    "routing is missing NEXT_NODE_PLACEHOLDER; cannot preserve anchor routing semantics"
  | noTargets => "multi-to routing requires at least one target"
  | exclusive options =>
    "routing options are mutually exclusive: " ++ ", ".intercalate options
  | notJson reason => s!"routing JSON is invalid: {reason}"
  | notArgument reason => s!"routing must be 'out', 'reply' or a JSON array: {reason}"
  | cycle anchor => s!"routing would introduce a cycle back to anchor '{anchor.text}'"
  | anchorCycle anchor => s!"inserting step would create a cycle back to anchor '{anchor.text}'"

def RoutingFault.isCycle : RoutingFault → Bool
  | cycle _ => true
  | anchorCycle _ => true
  | _ => false

/-- An id that counts as missing has no place. -/
def RoutingPlace.location : RoutingPlace → Option String
  | node id => if id.isTruthy then some s!"nodes.{id.text}.routing" else none
  | draft => some "node.routing"
  | option => some "routing"

def RoutingPlace.id? : RoutingPlace → Option Scalar
  | node id => some id
  | _ => none

def Violation.text (violation : Violation) : String :=
  s!"{violation.pointer}: {violation.message}"

def Subject.shown : Subject → List Scalar
  | node id => [id]
  | draft => []

def RoutingFault.shown : RoutingFault → List Scalar
  | unsupportedKey key => [key]
  | cycle anchor => [anchor]
  | anchorCycle anchor => [anchor]
  | _ => []

namespace FlowFault

/-- The scalars that the report of a fault shows. -/
def shown : FlowFault → List Scalar
  | document .. => []
  | schema .. => []
  | shape _ subject => subject.shown
  | routing fault place => fault.shown ++ place.id?.toList
  | anchorNotFound anchor => [anchor]
  | nodeNotFound id => [id]
  | nodeExists id => [id]
  | multiplePredecessors id predecessors => id :: predecessors
  | diagnostics .. => []
  | changed .. => []

/-- What went wrong, without the place. -/
def message : FlowFault → String
  | document problem _ _ => "YAML parse error: " ++ problem
  | schema violations _ =>
    "Schema validation failed: " ++ "; ".intercalate (violations.map Violation.text)
  | shape fault subject => fault.message subject
  | routing fault _ => fault.message
  | anchorNotFound anchor => s!"anchor node '{anchor.text}' not found"
  | nodeNotFound id => s!"node '{id.text}' not found"
  | nodeExists id => s!"node '{id.text}' already exists"
  | multiplePredecessors id predecessors =>
    s!"multiple predecessors for '{id.text}': " ++
      ", ".intercalate (predecessors.map Scalar.text) ++
      " (use splice-all to rewire every predecessor)"
  | diagnostics findings _ => Diagnostic.summary findings
  | changed path expected actual =>
    s!"flow document '{path}' was modified by another process. " ++
      s!"Expected ETag: {expected}, Actual: {actual}"

def location : FlowFault → Option String
  | document _ label place =>
    match place with
    | some (line, column) => some (if label = "" then "" else s!"{label}:{line}:{column}")
    | none => some label
  | schema _ label => some label
  | shape fault subject => some (fault.location subject)
  | routing _ place => place.location
  | anchorNotFound anchor => some s!"nodes.{anchor.text}"
  | nodeNotFound id => some s!"nodes.{id.text}"
  | nodeExists id => some s!"nodes.{id.text}"
  | multiplePredecessors id _ => some s!"nodes.{id.text}"
  | diagnostics _ location => location
  | changed path _ _ => some path

/-- The message with its place. -/
def text (fault : FlowFault) : String :=
  match fault.location with
  | some location => if location = "" then fault.message else s!"{fault.message} (at {location})"
  | none => fault.message

end FlowFault

end StepFlow
