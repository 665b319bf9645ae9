import StepFlow.Flow.Node

/-! Graphs: the nodes of a flow in order, and the names under which it is entered. -/
namespace StepFlow

/-- What a document says about the flow as a whole. It is carried along unread. -/
structure Header where
  id : Value
  kind : Value
  title : Value
  description : Value
  parameters : Members
  tags : List Value
  schemaVersion : Value
  info : Value
  deriving DecidableEq

/-- A flow. Names of entrypoints and ids of nodes are unique, the latter in any spelling;
the first entrypoint is the default one. A target that no check has seen may be anything. -/
@[ext] structure Graph where
  header : Header
  entrypoints : List (Scalar × Value)
  nodes : List Node
  names_distinct : (entrypoints.map Prod.fst).Nodup
  ids_distinct : (nodes.map Node.key).Nodup
  deriving DecidableEq

/-- The name of an entrypoint that was not named. -/
def defaultEntrypoint : String := "default"

namespace Graph

def isEmpty (graph : Graph) : Bool :=
  graph.nodes.isEmpty

def ids (graph : Graph) : List Scalar :=
  graph.nodes.map Node.id

def keys (graph : Graph) : List Identity :=
  graph.nodes.map Node.key

def node? (graph : Graph) (id : Scalar) : Option Node :=
  graph.nodes.find? (·.id.same id)

def hasNode (graph : Graph) (id : Scalar) : Bool :=
  graph.nodes.any (·.id.same id)

/-- Name and target of the first entrypoint. -/
def entry? (graph : Graph) : Option (Scalar × Value) :=
  graph.entrypoints.head?

/-- Whether the target of the first entrypoint can be looked up: only scalars can. -/
def entryFits (graph : Graph) : Bool :=
  match graph.entry? with
  | some (_, .scalar _) => true
  | some _ => false
  | none => true

/-- Every route with the id of its node, in order. -/
def routes (graph : Graph) : List (Scalar × Route) :=
  graph.nodes.flatMap fun node => node.routing.map (node.id, ·)

theorem hasNode_iff {graph : Graph} {id : Scalar} :
    graph.hasNode id = true ↔ id.identity ∈ graph.keys := by
  simp [hasNode, keys, Node.key, Scalar.same_iff]

/-- The graph with other targets of its entrypoints. -/
def retarget (graph : Graph) (f : Value → Value) : Graph :=
  { graph with
    entrypoints := graph.entrypoints.map fun entry => (entry.1, f entry.2)
    names_distinct := by
      simpa [Function.comp_def] using graph.names_distinct }

/-- The graph with every node changed in place. -/
def mapNodes (graph : Graph) (f : Node → Node) (keeps_id : ∀ node, (f node).id = node.id) :
    Graph :=
  { graph with
    nodes := graph.nodes.map f
    ids_distinct := by
      have same : Node.key ∘ f = Node.key := by
        funext node
        simp [Node.key, keeps_id]
      simpa [same] using graph.ids_distinct }

theorem ids_mapNodes {graph : Graph} {f : Node → Node} {keeps_id : ∀ node, (f node).id = node.id} :
    (graph.mapNodes f keeps_id).ids = graph.ids := by
  simp only [mapNodes, ids, List.map_map]
  exact List.map_congr_left fun node _ => keeps_id node

theorem keys_mapNodes {graph : Graph} {f : Node → Node} {keeps_id : ∀ node, (f node).id = node.id} :
    (graph.mapNodes f keeps_id).keys = graph.keys := by
  simp only [mapNodes, keys, List.map_map]
  exact List.map_congr_left fun node _ => congrArg Scalar.identity (keeps_id node)

/-- The graph without a node. -/
def eraseNode (graph : Graph) (id : Scalar) : Graph :=
  { graph with
    nodes := graph.nodes.filter fun node => !node.id.same id
    ids_distinct := graph.ids_distinct.sublist ((List.filter_sublist).map Node.key) }

end Graph

end StepFlow
