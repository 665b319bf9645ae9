import StepFlow.Value.Basic

/-! Routes: where a node hands over to. -/
namespace StepFlow

/-- One way out of a node. -/
structure Route where
  /-- The node that follows. -/
  target : Option Scalar
  /-- The flow is left here. -/
  out : Bool
  /-- A label of the branch, without a meaning here. -/
  status : Option String
  /-- The caller is answered here. -/
  reply : Bool
  deriving DecidableEq

/-- The target that stands for the routes of the node in front of an inserted one. -/
def placeholderTarget : String := "NEXT_NODE_PLACEHOLDER"

/-- The target that leaves the flow and is no node. -/
def outTarget : String := "out"

namespace Route

instance : Inhabited Route := ⟨⟨none, false, none, false⟩⟩

/-- A plain edge to a node. -/
def toNode (id : Scalar) : Route :=
  ⟨some id, false, none, false⟩

/-- A plain way out of the flow. -/
def leave : Route := ⟨none, true, none, false⟩

/-- A plain answer to the caller. -/
def answer : Route := ⟨none, false, none, true⟩

/-- A plain edge to the routes that an inserted node takes over. -/
def placeholder : Route := toNode placeholderTarget

/-- Leaves the flow or answers, and leads to no node. -/
def isTerminal (route : Route) : Bool :=
  route.target.isNone && (route.out || route.reply)

def isPlaceholder (route : Route) : Bool :=
  route.target = some (.str placeholderTarget)

def leadsTo (route : Route) (id : Scalar) : Bool :=
  route.target.any fun target => target.same id

theorem leadsTo_iff {route : Route} {id : Scalar} :
    route.leadsTo id = true ↔ ∃ target, route.target = some target ∧ target.same id = true := by
  simp [leadsTo, Option.any_eq_true]

/-- A route leads to a text only under that very text. -/
@[simp] theorem leadsTo_str {route : Route} {s : String} :
    route.leadsTo (.str s) = true ↔ route.target = some (.str s) := by
  simp [leadsTo_iff]

end Route

end StepFlow
