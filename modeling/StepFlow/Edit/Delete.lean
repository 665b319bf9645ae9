import StepFlow.Failure
import StepFlow.Flow.Graph

/-! Deleting a node. Spliced, the routes that lead to it become its own routes. -/
namespace StepFlow

/-- What becomes of the routes that lead to a deleted node. -/
inductive Strategy where
  | splice
  | removeOnly
  deriving DecidableEq

/-- Whether a node with several predecessors may be deleted. -/
inductive FanIn where
  | refuse
  | spliceAll
  deriving DecidableEq

def Strategy.name : Strategy → String
  | splice => "splice"
  | removeOnly => "remove-only"

def Strategy.names : List String := [splice.name, removeOnly.name]

def Strategy.ofName? (name : String) : Option Strategy :=
  [splice, removeOnly].find? (·.name = name)

def FanIn.name : FanIn → String
  | refuse => "error"
  | spliceAll => "splice-all"

def FanIn.names : List String := [refuse.name, spliceAll.name]

def FanIn.ofName? (name : String) : Option FanIn :=
  [refuse, spliceAll].find? (·.name = name)

namespace Graph

/-- The other nodes with a route to a node, in order. -/
def predecessors (graph : Graph) (id : Scalar) : List Scalar :=
  (graph.nodes.filter fun node =>
    !node.id.same id && node.routing.any fun route => route.leadsTo id).map Node.id

/-- The routes that take the place of a route to a deleted node: its own, but those to
itself, and none at all if only ways out are left. -/
def replacement (id : Scalar) (routing : List Route) : List Route :=
  let outgoing := routing.filter fun route => !route.leadsTo id
  if outgoing.all Route.isTerminal then [] else outgoing

/-- Puts routes in the place of each route to a node. -/
def spliceRoutes (id : Scalar) (replacement routing : List Route) : List Route :=
  routing.flatMap fun route => if route.leadsTo id then replacement else [route]

/-- The graph with every route to a node replaced. -/
def spliceAll (graph : Graph) (id : Scalar) (replacement : List Route) : Graph :=
  graph.mapNodes (fun node => node.withRouting (spliceRoutes id replacement node.routing))
    (fun _ => rfl)

/-- Where entrypoints lead once there are no nodes. -/
def nowhere : Scalar := .str ""

/-- The graph without a node; entrypoints to it lead to the first node that is left. -/
def remove (graph : Graph) (id : Scalar) : Graph :=
  let rest := graph.eraseNode id
  let fallback := (rest.ids.head?).getD nowhere
  rest.retarget fun target => if target.denotes id then .scalar fallback else target

/-- A fan-in refusal names the predecessors, which must be texts. -/
def fanInFailure (id : Scalar) (predecessors : List Scalar) : Failure :=
  let isText (name : Scalar) := match name with
    | .str _ => true
    | _ => false
  if predecessors.all isText then .ofFault (.multiplePredecessors id predecessors)
  else .misshapen .keyNotText

/-- The graph with the routes to a node mended as the strategy asks, while the node is still
there. -/
def repair (graph : Graph) (id : Scalar) (routing : List Route) : Strategy → Graph
  | .splice => graph.spliceAll id (replacement id routing)
  | .removeOnly => graph

/-- Deletes a node. It is searched by equality, so one whose id is equal to nothing stays,
and no route leads to it. -/
def delete (graph : Graph) (id : Scalar) (strategy : Strategy) (fanIn : FanIn) :
    Except Failure Graph :=
  match graph.node? id with
  | none => .error (.ofFault (.nodeNotFound id))
  | some node =>
    let predecessors := graph.predecessors id
    if id.isNaN then .ok graph
    else if 1 < predecessors.length && fanIn = .refuse then
      .error (fanInFailure id predecessors)
    else .ok ((graph.repair id node.routing strategy).remove id)

end Graph

end StepFlow
