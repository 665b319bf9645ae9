import StepFlow.Document.Nodes
import StepFlow.Flow.Node

/-! Drafts: descriptions of nodes to insert, brought into one form. A draft names its
component by a key of its own or, in older descriptions, inside a `tool` member. -/
namespace StepFlow

/-- A description with its fields told apart. -/
structure Draft where
  component : String
  packAlias : Option String
  operation : Option String
  payload : Value
  routing : List Route
  deriving DecidableEq

/-- A fault of a node that has yet to be inserted. -/
def ShapeFault.onDraft (fault : ShapeFault) : Failure :=
  .flow (.shape fault .draft)

namespace Draft

/-- Moves a field of the tool beside it, unless it is given there already. -/
def hoist (key : String) (nested members : Members) : Members :=
  match Keyed.get? nested key with
  | some value =>
    if Keyed.contains members key then members else Keyed.insert key value members
  | none => members

/-- Replaces a `tool` member by a member for its component. -/
def unwrapTool (tool : Value) (members : Members) : Except Failure Members :=
  match tool with
  | .map nested =>
    match Members.get nested "component" with
    | .scalar (.str component) =>
      if isBlankText component then .error ShapeFault.toolComponentMissing.onDraft
      else if Keyed.contains members component then
        .error (ShapeFault.toolAmbiguous component).onDraft
      else
        let nested := Keyed.erase nested "component"
        let members := hoist "operation" nested (hoist "pack_alias" nested members)
        let fields := Keyed.erase (Keyed.erase nested "pack_alias") "operation"
        .ok (Keyed.insert component (.map fields) members)
    | _ => .error ShapeFault.toolComponentMissing.onDraft
  | _ => .error ShapeFault.toolNotMapping.onDraft

/-- The members with a `tool` member unwrapped. -/
def flatten (members : Members) : Except Failure Members :=
  match Keyed.get? members "tool" with
  | some tool => unwrapTool tool (Keyed.erase members "tool")
  | none => .ok members

/-- The one member for the component. -/
def component? (members : Members) : Except Failure (String × Value) :=
  let isField (key : Scalar) := ["pack_alias", "operation", "routing"].any fun name => key.same name
  match members.filter fun member => !isField member.1 with
  | [] => .error (ShapeFault.keyCount []).onDraft
  | [(.str key, payload)] => .ok (key, payload)
  | [_] => .error (.misshapen .keyNotText)
  | several =>
    let names := (Keyed.keys several).filterMap fun key => match key with
      | .str name => some name
      | _ => none
    if names.length = several.length then .error (ShapeFault.keyCount names).onDraft
    else .error (.misshapen .keyNotText)

/-- A generic component names its operation; it may do so inside its payload, from where
it is taken. -/
def withOperation (draft : Draft) : Except Failure Draft :=
  if draft.component ≠ execKey then .ok draft
  else
    let draft := match draft.operation, draft.payload with
      | none, .map fields =>
        match Members.get fields "operation" with
        | .scalar (.str operation) =>
          if isBlankText operation then draft
          else
            { draft with
              operation := some (trim operation)
              payload := .map (Keyed.erase fields "operation") }
        | _ => draft
      | _, _ => draft
    if (draft.operation.map isBlankText).getD true then
      .error ShapeFault.operationMissing.onDraft
    else .ok draft

/-- Brings a description into one form. -/
def ofValue? : Value → Except Failure Draft
  | .map members => do
    let members ← flatten members
    let field (key : String) :=
      optionalText (Members.get members key) (ShapeFault.notString key).onDraft
    let packAlias ← field "pack_alias"
    let operation ← field "operation"
    let routing ← atNode draftName (parseRouteList (Members.get members "routing"))
    let (component, payload) ← component? members
    if isValidComponentKey component then
      withOperation { component, packAlias, operation, payload, routing }
    else .error (ShapeFault.badKey component).onDraft
  | _ => .error ShapeFault.notMapping.onDraft

/-- The kind of node that the draft describes. -/
def kind (draft : Draft) : Except Failure Kind :=
  if draft.component = "questions" then
    match draft.payload with
    | .map fields => .ok (.questions fields)
    | _ => .error ShapeFault.questionsNotMapping.onDraft
  else if draft.component = "template" then
    match draft.payload with
    | .scalar (.str text) => .ok (.template text)
    | _ => .error ShapeFault.templateNotString.onDraft
  else if isValidComponentKey draft.component then
    .ok (.component draft.component draft.packAlias draft.operation draft.payload)
  else .ok (.other draft.component draft.payload)

/-- The node under its id. -/
def toNode (draft : Draft) (id : Scalar) (routing : List Route) : Except Failure Node := do
  return ⟨id, ← draft.kind, routing, []⟩

end Draft

end StepFlow
