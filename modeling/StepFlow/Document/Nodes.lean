import StepFlow.Document.Routes
import StepFlow.Flow.Node
import StepFlow.Text.Blank

/-! Nodes as documents write them: one member for the component, and reserved members
beside it. -/
namespace StepFlow

/-- The members of a node that are kept as they are. -/
def reservedKeys : List String :=
  ["telemetry", "output", "retry", "timeout", "when", "annotations", "meta"]

/-- A fault of a node of the document. -/
def ShapeFault.onNode (fault : ShapeFault) (id : Scalar) : Failure :=
  .ofFault (.shape fault (.node id))

/-- A text or nothing. -/
def optionalText (value : Value) (fault : Failure) : Except Failure (Option String) :=
  match value with
  | .scalar .null => .ok none
  | .scalar (.str s) => .ok (some s)
  | _ => .error fault

namespace Node

/-- The kind of a node with one component member. The alias and the operation mean
something on components only. -/
def kindOf (id : Scalar) (key : String) (packAlias operation : Option String) (payload : Value) :
    Except Failure Kind :=
  if key = execKey && (operation.map isBlankText).getD true then
    .error (ShapeFault.operationMissing.onNode id)
  else if key = "questions" then
    match payload with
    | .map fields => .ok (.questions fields)
    | _ => .error (ShapeFault.questionsNotMapping.onNode id)
  else if key = "template" then
    match payload with
    | .scalar (.str text) => .ok (.template text)
    | _ => .error (ShapeFault.templateNotString.onNode id)
  else if ComponentKey.isPattern key then .ok (.component key packAlias operation payload)
  else .ok (.other key payload)

/-- The members that nodes without a component keep for later. -/
def strayMembers (packAlias operation : Option String) : Members :=
  (packAlias.map fun name => (Scalar.str "pack_alias", Value.str name)).toList ++
    (operation.map fun name => (Scalar.str "operation", Value.str name)).toList

/-- Members that are neither routing nor reserved nor alias nor operation. -/
def componentMembers (members : Members) : Members :=
  members.filter fun member =>
    !("routing" :: "pack_alias" :: "operation" :: reservedKeys).any fun key => member.1.same key

def reservedMembers (members : Members) : Members :=
  reservedKeys.filterMap fun (key : String) =>
    (Keyed.get? members key).map fun value => (Scalar.str key, value)

/-- Reads a node of a document. -/
def ofValue? (id : Scalar) : Value → Except Failure Node
  | .map members => do
    let routing ← atNode id (parseRoutes (Members.get members "routing"))
    let textOf (name : String) :=
      optionalText (Members.get members name) ((ShapeFault.notString name).onNode id)
    let packAlias ← textOf "pack_alias"
    let operation ← textOf "operation"
    match componentMembers members with
    | [(.str key, payload)] =>
      let kind ← kindOf id key packAlias operation payload
      let stray := if kind.isComponent then [] else strayMembers packAlias operation
      return ⟨id, kind, routing, reservedMembers members ++ stray⟩
    | [_] => .error (.misshapen .keyNotText)
    | _ => .error ((ShapeFault.keyCount []).onNode id)
  | _ => .error (ShapeFault.notMapping.onNode id)

/-- The members of a kind. -/
def kindMembers : Kind → Members
  | .component id packAlias operation payload =>
    (.str id, payload) :: strayMembers packAlias operation
  | .questions fields => [(.str "questions", .map fields)]
  | .template text => [(.str "template", .str text)]
  | .other key payload => [(.str key, payload)]

/-- Writes a node: its kind, its routing, its extras. A later member of the same key
takes the place of an earlier one. -/
def toMembers (node : Node) : Members :=
  Keyed.update
    (Keyed.ofList (kindMembers node.kind ++ [(.str "routing", routesToValue node.routing)]))
    node.extras

end Node

end StepFlow
