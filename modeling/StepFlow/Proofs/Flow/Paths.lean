import Mathlib.Logic.Relation
import StepFlow.Proofs.Flow.Lookup

/-! Paths through a graph. A route that leads to no node is no edge. Main statement: where
the edges into a vertex are joined with those out of it, the vertex can be left out without
a loss: between the others, what can be reached stays the same. -/
namespace StepFlow

/-- A relation with a vertex left out. Two edges that met there become one. -/
def Bypass {α : Type} (edge : α → α → Prop) (v a b : α) : Prop :=
  a ≠ v ∧ b ≠ v ∧ (edge a b ∨ edge a v ∧ edge v b)

namespace Bypass

open Relation

variable {α : Type} {edge : α → α → Prop} {v a b : α}

theorem expand (path : TransGen (Bypass edge v) a b) : TransGen edge a b := by
  refine TransGen.closed (fun a b step => ?_) a b path
  obtain ⟨-, -, direct | ⟨enter, leave⟩⟩ := step
  · exact .single direct
  · exact .tail (.single enter) leave

/-- The induction follows the path from its end. A path that starts at the vertex itself is
no path of the bypass, so it is carried along with the edge by which it will be entered. -/
theorem contract (path : TransGen edge a b) (target : b ≠ v) :
    (a ≠ v → TransGen (Bypass edge v) a b) ∧
      (a = v → ∀ c, c ≠ v → edge c v → TransGen (Bypass edge v) c b) := by
  induction path using TransGen.head_induction_on with
  | single last =>
    refine ⟨fun source => .single ⟨source, target, .inl last⟩, ?_⟩
    rintro rfl c source enter
    exact .single ⟨source, target, .inr ⟨enter, last⟩⟩
  | @head a d first rest ih =>
    by_cases through : d = v
    · subst through
      refine ⟨fun source => ih.2 rfl a source first, ?_⟩
      rintro - c source enter
      exact ih.2 rfl c source enter
    · have rest := ih.1 through
      refine ⟨fun source => .head ⟨source, through, .inl first⟩ rest, ?_⟩
      rintro rfl c source enter
      exact .head ⟨source, through, .inr ⟨enter, first⟩⟩ rest

theorem transGen_iff (source : a ≠ v) (target : b ≠ v) :
    TransGen (Bypass edge v) a b ↔ TransGen edge a b :=
  ⟨expand, fun path => (contract path target).1 source⟩

theorem reflTransGen_iff (source : a ≠ v) (target : b ≠ v) :
    ReflTransGen (Bypass edge v) a b ↔ ReflTransGen edge a b := by
  simp only [reflTransGen_iff_eq_or_transGen, transGen_iff source target]

end Bypass

/-- Some route of the node leads to a key. -/
def Node.LeadsTo (node : Node) (key : Identity) : Prop :=
  ∃ route ∈ node.routing, route.target.map Scalar.identity = some key

theorem Value.denotes_iff {value : Value} {id : Scalar} :
    value.denotes id = true ↔ ∃ s, value = .scalar s ∧ s.identity = id.identity := by
  cases value <;> simp [denotes, Scalar.same_iff]

theorem Route.leadsTo_iff_identity {route : Route} {id : Scalar} :
    route.leadsTo id = true ↔ route.target.map Scalar.identity = some id.identity := by
  simp [leadsTo_iff, Scalar.same_iff]

namespace Graph

/-- A route of the one node leads to the other. -/
def Edge (graph : Graph) (a b : Identity) : Prop :=
  b ∈ graph.keys ∧ ∃ node ∈ graph.nodes, node.key = a ∧ node.LeadsTo b

/-- A path of one edge or more. -/
def Reaches (graph : Graph) : Identity → Identity → Prop :=
  Relation.TransGen graph.Edge

/-- The flow can come back to where it was. -/
def IsOnCycle (graph : Graph) (a : Identity) : Prop :=
  graph.Reaches a a

/-- Where an entrypoint leads. -/
def target? (graph : Graph) (name : Scalar) : Option Value :=
  (graph.entrypoints.find? (·.1 = name)).map Prod.snd

/-- A target leads to a key, at once or along a path. -/
def Follows (graph : Graph) (target : Value) (key : Identity) : Prop :=
  ∃ id, target = .scalar id ∧ Relation.ReflTransGen graph.Edge id.identity key

/-- An entrypoint leads to a key, at once or along a path. -/
def Enters (graph : Graph) (name : Scalar) (key : Identity) : Prop :=
  ∃ target, graph.target? name = some target ∧ graph.Follows target key

variable {graph : Graph} {a b : Identity}

theorem Edge.source_mem (edge : graph.Edge a b) : a ∈ graph.keys := by
  obtain ⟨-, node, member, rfl, -⟩ := edge
  exact key_mem_keys member

theorem edge_iff_of_key {node : Node} (member : node ∈ graph.nodes) (source : node.key = a) :
    graph.Edge a b ↔ b ∈ graph.keys ∧ node.LeadsTo b := by
  constructor
  · rintro ⟨known, other, another, same, leads⟩
    exact ⟨known, eq_of_key_eq another member (same.trans source.symm) ▸ leads⟩
  · rintro ⟨known, leads⟩
    exact ⟨known, node, member, source, leads⟩

@[simp] theorem follows_scalar {id : Scalar} {key : Identity} :
    graph.Follows (.scalar id) key ↔ Relation.ReflTransGen graph.Edge id.identity key := by
  simp [Follows]

theorem enters_retarget_iff {f : Value → Value} {name : Scalar} {key : Identity} :
    (graph.retarget f).Enters name key ↔
      ∃ target, graph.target? name = some target ∧ (graph.retarget f).Follows (f target) key := by
  have renamed : (graph.retarget f).target? name = (graph.target? name).map f := by
    simp [target?, retarget, List.find?_map, Function.comp_def]
  simp only [Enters, renamed, Option.map_eq_some_iff]
  constructor
  · rintro ⟨-, ⟨target, found, rfl⟩, follows⟩
    exact ⟨target, found, follows⟩
  · rintro ⟨target, found, follows⟩
    exact ⟨f target, ⟨target, found, rfl⟩, follows⟩

/-- The edges of a graph are those of a larger one with its one further node passed over. -/
theorem edge_eq_bypass {wide : Graph} {v : Identity} (fresh : v ∉ graph.keys)
    (known : ∀ key, key ∈ wide.keys ↔ key = v ∨ key ∈ graph.keys)
    (leads : ∀ node ∈ graph.nodes, ∀ key ∈ graph.keys,
      node.LeadsTo key ↔ wide.Edge node.key key ∨ wide.Edge node.key v ∧ wide.Edge v key) :
    graph.Edge = Bypass wide.Edge v := by
  have other {key : Identity} (member : key ∈ graph.keys) : key ≠ v :=
    fun same => fresh (same ▸ member)
  funext a b
  apply propext
  constructor
  · rintro ⟨target, node, member, rfl, direct⟩
    exact ⟨other (key_mem_keys member), other target, (leads node member b target).mp direct⟩
  · rintro ⟨source, target, step⟩
    have isTarget : b ∈ graph.keys :=
      ((known b).mp (step.elim And.left fun two => two.2.1)).resolve_left target
    have isSource : a ∈ graph.keys :=
      ((known a).mp (step.elim Edge.source_mem fun two => two.1.source_mem)).resolve_left source
    obtain ⟨node, member, rfl⟩ := mem_keys.mp isSource
    exact ⟨isTarget, node, member, rfl, (leads node member b isTarget).mpr step⟩

end Graph

end StepFlow
