import StepFlow.Document.Text
import StepFlow.Edit.Plan

/-! Applying a planned insertion. -/
namespace StepFlow

/-- Puts a node next to the one with the anchor's id. -/
def insertBeside (before : Bool) (anchor : Scalar) (new : Node) : List Node → List Node
  | [] => []
  | node :: nodes =>
    if node.id.same anchor then
      if before then new :: node :: nodes else node :: new :: nodes
    else node :: insertBeside before anchor new nodes

theorem mem_insertBeside {before : Bool} {anchor : Scalar} {new : Node} {nodes : List Node}
    {key : Identity} (member : key ∈ (insertBeside before anchor new nodes).map Node.key) :
    key = new.key ∨ key ∈ nodes.map Node.key := by
  induction nodes with
  | nil => simp [insertBeside] at member
  | cons node nodes ih =>
    unfold insertBeside at member
    split at member
    · split at member <;> simp at member ⊢ <;> grind
    · simp only [List.map_cons, List.mem_cons] at member ⊢
      rcases member with rfl | member
      · exact .inr (.inl rfl)
      · exact (ih member).imp_right .inr

theorem nodup_insertBeside {before : Bool} {anchor : Scalar} {new : Node} {nodes : List Node}
    (distinct : (nodes.map Node.key).Nodup) (fresh : new.key ∉ nodes.map Node.key) :
    ((insertBeside before anchor new nodes).map Node.key).Nodup := by
  induction nodes with
  | nil => simp [insertBeside]
  | cons node nodes ih =>
    simp only [List.map_cons, List.nodup_cons, List.mem_cons, not_or] at distinct fresh
    unfold insertBeside
    split
    · split <;> simp only [List.map_cons, List.nodup_cons, List.mem_cons, not_or]
      · exact ⟨⟨fresh.1, fresh.2⟩, distinct⟩
      · exact ⟨⟨fun same => fresh.1 same.symm, distinct.1⟩, fresh.2, distinct.2⟩
    · simp only [List.map_cons, List.nodup_cons]
      refine ⟨fun member => ?_, ih distinct.2 fresh.2⟩
      rcases mem_insertBeside member with same | member
      · exact fresh.1 same.symm
      · exact distinct.1 member

namespace Graph

/-- The graph with a node next to the anchor. -/
def insertNode (graph : Graph) (before : Bool) (anchor : Scalar) (new : Node)
    (fresh : new.key ∉ graph.keys) : Graph :=
  { graph with
    nodes := insertBeside before anchor new graph.nodes
    ids_distinct := nodup_insertBeside graph.ids_distinct fresh }

/-- The graph with other routes of one node. -/
def reroute (graph : Graph) (id : Scalar) (routing : List Route) : Graph :=
  graph.mapNodes (fun node => if node.id.same id then node.withRouting routing else node)
    (fun node => by split <;> rfl)

theorem keys_reroute (graph : Graph) (id : Scalar) (routing : List Route) :
    (graph.reroute id routing).keys = graph.keys :=
  keys_mapNodes

/-- The first node of a graph is where every entrypoint leads. -/
def startWith (graph : Graph) (node : Node) : Graph :=
  { graph with
    entrypoints :=
      if graph.entrypoints.isEmpty then [(.str defaultEntrypoint, .scalar node.id)]
      else graph.entrypoints.map fun entry => (entry.1, .scalar node.id)
    nodes := [node]
    names_distinct := by
      split
      · simp
      · simpa [Function.comp_def] using graph.names_distinct
    ids_distinct := by simp }

/-- The new node leads to the anchor, and whoever entered there enters at the new node. -/
def insertBefore (graph : Graph) (plan : Plan) (fresh : plan.node.key ∉ graph.keys) : Graph :=
  (graph.insertNode true plan.anchor (plan.node.withRouting [.toNode plan.anchor]) fresh).retarget
    fun target => if target.denotes plan.anchor then .scalar plan.node.id else target

/-- The anchor leads to the new node and to nothing else. -/
def insertAfter (graph : Graph) (plan : Plan) (threaded : List Route)
    (fresh : plan.node.key ∉ graph.keys) : Graph :=
  (graph.reroute plan.anchor threaded).insertNode false plan.anchor plan.node
    (by rwa [keys_reroute])

/-- Applies a plan. The place is searched by equality, so next to an anchor that is equal to
nothing no node is inserted. -/
def apply (graph : Graph) (plan : Plan) : Except FlowFault Graph :=
  if known : plan.node.key ∈ graph.keys then .error (.nodeExists plan.node.id)
  else if graph.isEmpty then .ok (graph.startWith plan.node)
  else if !graph.hasNode plan.anchor then .error (.anchorNotFound plan.anchor)
  else if plan.anchor.isNaN then .ok graph
  else if plan.precedesEntry then .ok (graph.insertBefore plan known)
  else do
    let threaded ← threadAnchor plan.node.id plan.priorRouting plan.allowCycles plan.anchor
    return graph.insertAfter plan threaded known

variable [Installation] [Execution]

/-- The graph, if it can be written and its written form is valid. -/
def checked (graph : Graph) (catalog : Option Catalog) (location : String) :
    Except Failure Graph := do
  match ← (← graph.confirm).validate catalog with
  | [] => return graph
  | findings => .error (.flow (.diagnostics findings (some location)))

/-- Applies a plan and checks the result. -/
def applyChecked (graph : Graph) (plan : Plan) (catalog : Option Catalog) :
    Except Failure Graph := do
  (← (graph.apply plan).mapError .ofFault).checked catalog draftName

end Graph

end StepFlow
