import StepFlow.Flow.ComponentKey
import StepFlow.Flow.Route

/-! Nodes: the steps of a flow. -/
namespace StepFlow

/-- What a node does. -/
inductive Kind where
  /-- Invokes an external component. -/
  | component (id : String) (packAlias operation : Option String) (payload : Value)
  /-- Asks for input fields. -/
  | questions (fields : Members)
  /-- Fills in a text. -/
  | template (text : String)
  /-- Anything else, under its key. -/
  | other (key : String) (payload : Value)
  deriving DecidableEq

/-- The key under which a document holds the node's payload. -/
def Kind.key : Kind → String
  | component id _ _ _ => id
  | questions _ => "questions"
  | template _ => "template"
  | other key _ => key

def Kind.isComponent : Kind → Bool
  | component _ _ _ _ => true
  | _ => false

/-- A step of a flow. The extras are members of its document that are kept as they are. -/
structure Node where
  id : Scalar
  kind : Kind
  routing : List Route
  extras : Members
  deriving DecidableEq

/-- What tells the node apart from others. -/
def Node.key (node : Node) : Identity :=
  node.id.identity

/-- The node with other routes. -/
def Node.withRouting (node : Node) (routing : List Route) : Node :=
  { node with routing }

@[simp] theorem Node.withRouting_id (node : Node) (routing : List Route) :
    (node.withRouting routing).id = node.id := rfl

@[simp] theorem Node.withRouting_key (node : Node) (routing : List Route) :
    (node.withRouting routing).key = node.key := rfl

end StepFlow
