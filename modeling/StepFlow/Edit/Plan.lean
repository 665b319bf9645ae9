import StepFlow.Edit.Anchor
import StepFlow.Edit.Draft
import StepFlow.Edit.Ids
import StepFlow.Edit.Rewire
import StepFlow.Validity

/-! Planning an insertion: everything is settled before the graph changes. Problems of the
anchor, the hint, the draft and its component are reported together; routes are only
expanded once there are none. -/
namespace StepFlow

/-- What to insert and where. -/
structure Request where
  after : Option Scalar
  hint : Option String
  node : Value
  allowCycles : Bool
  requirePlaceholder : Bool

/-- An insertion that is ready to be applied. -/
structure Plan where
  anchor : Scalar
  node : Node
  priorRouting : List Route
  precedesEntry : Bool
  allowCycles : Bool
  deriving DecidableEq

/-- Why there is no plan. -/
inductive Refusal where
  | findings (diagnostics : List Diagnostic)
  | failure (failure : Failure)
  deriving DecidableEq

namespace Plan

/-- A draft with the kind of its node. -/
abbrev Described := Draft × Kind

def describe (value : Value) : Except Failure Described := do
  let draft ← Draft.ofValue? value
  return (draft, ← draft.kind)

def anchorFindings : Except FlowFault Anchor → List Diagnostic
  | .ok _ => []
  | .error fault => [⟨.anchorMissing, fault.message, some "nodes"⟩]

def hintFindings : Option String → List Diagnostic
  | none => []
  | some hint =>
    if Ids.isPlaceholderHint (some hint) then
      [⟨.idPlaceholder, s!"node id hint '{hint}' is a placeholder; pass a real node id",
        some "add_step.node_id"⟩]
    else []

def draftFindings : Except FlowFault Described → List Diagnostic
  | .ok _ => []
  | .error fault => [⟨.nodeInvalid, fault.message, some "add_step.node"⟩]

def componentFindings (catalog : Catalog) : Kind → List Diagnostic
  | .component id _ _ payload =>
    match catalog.resolve id with
    | none =>
      [⟨.componentUnknown, s!"component '{id}' not found in catalog",
        some "add_step.component"⟩]
    | some entry =>
      (missingFields payload entry.requiredFields).map fun field =>
        ⟨.configRequired, s!"component '{id}' missing required config '{field}'",
          some s!"add_step.node.{field}"⟩
  | _ => []

def catalogFindings (described : Except FlowFault Described) : Option Catalog → List Diagnostic
  | none => []
  | some catalog =>
    match described with
    | .ok (_, kind) => componentFindings catalog kind
    | .error _ => []

/-- Faults are findings; other failures end the planning. -/
def faultOf {α : Type} (result : Except Failure α) : Except Failure (Except FlowFault α) :=
  match result with
  | .ok value => .ok (.ok value)
  | .error (.flow fault) => .ok (.error fault)
  | .error failure => .error failure

/-- The anchor's routes. -/
def anchorRoutes (graph : Graph) (anchor : Anchor) : List Route :=
  ((graph.node? anchor.id).map Node.routing).getD []

/-- The id of the new node. Only an anchor with a text for its id can lend it a name. -/
def newId (graph : Graph) (hint : Option String) (anchor : Anchor) : Except Failure String :=
  match anchor.id with
  | .str name => .ok (Ids.generate hint name graph.ids)
  | _ =>
    if Ids.isPlaceholderHint hint then .error (.misshapen .keyNotText)
    else .ok (Ids.generate hint "" graph.ids)

/-- The routes of the new node. In front of an entry they are not used, so cycles in them
do no harm; in an empty graph there is nothing to take over. -/
def routing (graph : Graph) (request : Request) (anchor : Anchor) (draft : Draft) (id : String) :
    Except (List Diagnostic) (List Route) :=
  let place := some s!"nodes.{id}.routing"
  let expanded := expandRoutes draft.routing (anchorRoutes graph anchor)
    (request.allowCycles || anchor.precedesEntry) anchor.id
    (request.requirePlaceholder && !graph.isEmpty)
  match expanded with
  | .error (.routing fault _) =>
    .error [⟨if fault.isCycle then .routingCycle else .routingInvalid, fault.message, place⟩]
  | .error fault => .error [⟨.routingInvalid, fault.message, place⟩]
  | .ok [] =>
    if graph.isEmpty then .ok []
    else
      .error
        [⟨.routingMissing,
          s!"node '{id}' would have no routing; an inserted step needs at least one route", place⟩]
  | .ok routes => .ok routes

/-- The plan for a draft whose parts are in order. -/
def assemble (graph : Graph) (request : Request) (anchor : Anchor) (described : Described) :
    Except Refusal Plan := do
  let (draft, kind) := described
  let id ← (newId graph (request.hint <|> draft.operation) anchor).mapError .failure
  let routes ← (routing graph request anchor draft id).mapError .findings
  return {
    anchor := anchor.id
    node := ⟨.str id, kind, routes, []⟩
    priorRouting := anchorRoutes graph anchor
    precedesEntry := anchor.precedesEntry
    allowCycles := request.allowCycles }

/-- Plans an insertion. -/
def make (graph : Graph) (request : Request) (catalog : Option Catalog) : Except Refusal Plan := do
  let anchor ← (faultOf (Anchor.resolve graph request.after)).mapError .failure
  let described ← (faultOf (describe request.node)).mapError .failure
  let findings := anchorFindings anchor ++ hintFindings request.hint ++ draftFindings described ++
    catalogFindings described catalog
  match anchor, described with
  | .ok anchor, .ok described =>
    if findings.isEmpty then assemble graph request anchor described
    else .error (.findings findings)
  | _, _ => .error (.findings findings)

end Plan

end StepFlow
