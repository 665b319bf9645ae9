import StepFlow.Catalog
import StepFlow.Failure
import StepFlow.Flow.Graph
import StepFlow.Text.Blank
import StepFlow.Text.Split

/-! Validity of graphs. All rules are checked and everything found is reported, in the
order of the graph. -/
namespace StepFlow

/-- Whether a path of keys leads through nested mappings. -/
def hasPath : Value → List String → Bool
  | _, [] => true
  | .map members, key :: path =>
    match Keyed.get? members key with
    | some value => hasPath value path
    | none => false
  | _, _ :: _ => false

/-- Whether a dotted field is there. -/
def hasRequiredField (payload : Value) (field : String) : Bool :=
  hasPath payload (splitText '.' field)

def missingFields (payload : Value) (fields : List String) : List String :=
  fields.filter fun field => !hasRequiredField payload field

namespace Graph

/-- Whether a target, which may be anything, is a node. -/
def hasTarget (graph : Graph) : Value → Bool
  | .scalar id => graph.hasNode id
  | _ => false

/-- The first entrypoint leads to a node. -/
def entryFindings (graph : Graph) : List Diagnostic :=
  match graph.entry? with
  | none => []
  | some (name, target) =>
    if graph.hasTarget target then []
    else
      [⟨.entrypointMissing, s!"entrypoint '{name.text}' targets unknown node '{target.text}'",
        some s!"entrypoints.{name.text}"⟩]

/-- A route leads to a node or leaves the flow. -/
def routeFindings (graph : Graph) (node : Node) (route : Route) : List Diagnostic :=
  match route.target with
  | none => []
  | some target =>
    if target = .str outTarget || graph.hasNode target then []
    else
      [⟨.routeTargetMissing, s!"node '{node.id.text}' routes to unknown node '{target.text}'",
        some s!"nodes.{node.id.text}.routing"⟩]

/-- A component is in the catalog and has the fields that it requires. -/
def catalogFindings (node : Node) (component : String) (payload : Value) :
    Option Catalog → List Diagnostic
  | none => []
  | some catalog =>
    match catalog.resolve component with
    | none =>
      [⟨.componentNotFound, s!"component '{component}' not found in catalog",
        some s!"nodes.{node.id.text}"⟩]
    | some entry =>
      (missingFields payload entry.requiredFields).map fun field =>
        ⟨.configRequired, s!"component '{component}' missing required config '{field}'",
          some s!"nodes.{node.id.text}.{field}"⟩

def kindFindings (catalog : Option Catalog) (node : Node) : List Diagnostic :=
  match node.kind with
  | .component id _ _ payload =>
    (if payload.isNull then
      [⟨.payloadRequired, s!"component '{id}' payload must not be null",
        some s!"nodes.{node.id.text}"⟩]
    else []) ++ catalogFindings node id payload catalog
  | .questions fields =>
    if Keyed.contains fields "fields" then []
    else
      [⟨.fieldsRequired, "questions node missing fields",
        some s!"nodes.{node.id.text}.questions.fields"⟩]
  | .template text =>
    if isBlankText text then
      [⟨.templateEmpty, "template node must not be empty",
        some s!"nodes.{node.id.text}.template"⟩]
    else []
  | .other _ _ => []

def nodeFindings (graph : Graph) (catalog : Option Catalog) (node : Node) : List Diagnostic :=
  node.routing.flatMap (graph.routeFindings node) ++ kindFindings catalog node

/-- Everything that is wrong with a graph. Without a catalog, components are not looked
up. -/
def findings (graph : Graph) (catalog : Option Catalog) : List Diagnostic :=
  graph.entryFindings ++ graph.nodes.flatMap (graph.nodeFindings catalog)

/-- Whether what is wrong with the first entrypoint can be told. -/
def canTellEntry (graph : Graph) : Bool :=
  match graph.entry? with
  | some (name, target) =>
    graph.hasTarget target || (name.isWritable && target.isWritable)
  | none => true

/-- Whether what is wrong with a node can be told: its id is shown, and the targets that
are no nodes. -/
def canTellNode (graph : Graph) (catalog : Option Catalog) (node : Node) : Bool :=
  let targets := node.routing.filterMap Route.target
  (graph.nodeFindings catalog node).isEmpty ||
    (node.id.isWritable && targets.all fun target => graph.hasNode target || target.isWritable)

/-- The findings, if the entry can be looked up and all of them can be told. -/
def validate (graph : Graph) (catalog : Option Catalog) : Except Failure (List Diagnostic) := do
  if !graph.entryFits then throw (.misshapen .noKey)
  requireWritable (graph.canTellEntry && graph.nodes.all (graph.canTellNode catalog))
  return graph.findings catalog

end Graph

end StepFlow
