import StepFlow.Failure
import StepFlow.Flow.Graph

/-! Anchors: the nodes after which, or in front of which, steps are inserted. -/
namespace StepFlow

/-- Where to insert. Without a wish, a step goes in front of the node at which the flow is
entered. -/
structure Anchor where
  id : Scalar
  precedesEntry : Bool
  deriving DecidableEq

namespace Anchor

/-- The anchor of an insertion into a graph without nodes. -/
def none : Scalar := .str ""

/-- The node that was asked for, as it was asked for; else the default entry; else the
first node. -/
def resolve (graph : Graph) : Option Scalar → Except Failure Anchor
  | some after =>
    if graph.hasNode after then .ok ⟨after, false⟩ else .error (.ofFault (.anchorNotFound after))
  | Option.none =>
    match graph.nodes with
    | [] => .ok ⟨none, false⟩
    | first :: _ =>
      match graph.entry? with
      | some (_, .scalar target) =>
        if graph.hasNode target then .ok ⟨target, true⟩ else .ok ⟨first.id, false⟩
      | some _ => .error (.misshapen .noKey)
      | Option.none => .ok ⟨first.id, false⟩

end Anchor

end StepFlow
