import StepFlow.Proofs.Edit.Applicability
import StepFlow.Proofs.Edit.Closure

/-! What leads to an inserted node. Two names of targets stand for no node: the way out of the flow,
and the routes that a draft takes over. Main statement: a new node that bears neither name is led to
by its anchor alone; one that bears the first captures the ways out, and one that bears the second
leaves a route behind that reads as one to be taken over. -/
namespace StepFlow

open Outcome

/-- The plan puts the new node behind its anchor. -/
def Plan.GoesBehind (plan : Plan) (graph : Graph) : Prop :=
  graph.nodes ≠ [] ∧ plan.precedesEntry = false ∧ plan.anchor.isNaN = false

namespace Graph

/-- No route is captured by the new node, and none is made to look like one to be taken over. -/
structure CapturesNothing (graph : Graph) (plan : Plan) : Prop where
  unrouted : graph.IsUnrouted plan.node.id
  lone : ∀ result, graph.apply plan = .ok result → ∀ node ∈ result.nodes, node.key ≠ plan.node.key →
    (∃ route ∈ node.routing, route.leadsTo plan.node.id = true) →
      plan.GoesBehind graph ∧ node.key = plan.anchor.identity ∧ node.routing = [.toNode plan.node.id]
  threaded : plan.GoesBehind graph → ∀ result, graph.apply plan = .ok result → ∃ node ∈ result.nodes,
    node.key = plan.anchor.identity ∧ node.routing = [.toNode plan.node.id]
  unmarked : ∀ result, graph.apply plan = .ok result → ∀ node ∈ result.nodes,
    node.key ≠ plan.node.key → ∀ route ∈ node.routing, route.isPlaceholder = false

variable {graph result : Graph} {request : Request} {catalog : Option Catalog} {plan : Plan}
  {node : Node} {route : Route} {name : String}

theorem isUnrouted_str_iff : graph.IsUnrouted (.str name) ↔
    ∀ node ∈ graph.nodes, ∀ route ∈ node.routing, route.target ≠ some (.str name) := by
  simp only [IsUnrouted, Bool.eq_false_iff, ne_eq, Route.leadsTo_str]

/-- A new name is none that a route uses, unless it stands for the way out. -/
theorem isUnrouted_of_fresh (admits : ∀ node ∈ graph.nodes, ∀ route ∈ node.routing, graph.Admits route)
    (fresh : graph.hasNode (.str name) = false) (other : name ≠ outTarget) :
    graph.IsUnrouted (.str name) := by
  rw [isUnrouted_str_iff]
  intro node member route isRoute isTarget
  rcases admits node member route isRoute _ isTarget with out | known
  · exact other (Scalar.str.inj out)
  · exact Bool.false_ne_true (fresh.symm.trans known)

/-! ### Nodes of the result -/

/-- The other nodes are as they were, but for the anchor that leads to the new one. -/
theorem Inserted.cases_of_other (inserted : Inserted graph plan result) (member : node ∈ result.nodes)
    (other : node.key ≠ plan.node.key) : node ∈ graph.nodes ∨
      plan.GoesBehind graph ∧ node.key = plan.anchor.identity ∧ node.routing = [.toNode plan.node.id] := by
  cases inserted with
  | first =>
    obtain rfl := List.mem_singleton.mp member
    contradiction
  | nowhere => exact .inl member
  | before fresh known =>
    rcases (mem_nodes_insertBefore fresh known).mp member with rfl | isOld
    · exact absurd rfl other
    · exact .inl isOld
  | after fresh known equal behind =>
    rcases (mem_nodes_insertAfter _ fresh known).mp member with rfl | ⟨old, isOld, rfl⟩
    · exact absurd rfl other
    · split
      · rename_i isAnchor
        exact .inr ⟨⟨nodes_ne_nil known, behind, equal⟩, Scalar.same_iff.mp isAnchor, rfl⟩
      · exact .inl isOld

/-- Behind its anchor the new node is led to by it. -/
theorem Inserted.exists_threaded (inserted : Inserted graph plan result) (behind : plan.GoesBehind graph) :
    ∃ node ∈ result.nodes, node.key ≠ plan.node.key ∧ node.key = plan.anchor.identity ∧
      node.routing = [.toNode plan.node.id] := by
  obtain ⟨nonempty, follows, equal⟩ := behind
  cases inserted with
  | first empty => exact absurd empty nonempty
  | nowhere _ isNaN => simp [equal] at isNaN
  | before _ _ _ precedes => simp [follows] at precedes
  | after fresh known =>
    obtain ⟨anchor, isAnchor, sameKey⟩ := hasNode_iff_exists.mp known
    have rerouted := (mem_nodes_insertAfter [.toNode plan.node.id] fresh known).mpr
      (.inr ⟨anchor, isAnchor, if_pos (Scalar.same_iff.mpr sameKey)⟩)
    have other : anchor.key ≠ plan.node.key := fun same => fresh (same ▸ key_mem_keys isAnchor)
    exact ⟨_, rerouted, other, sameKey, rfl⟩

/-! ### Captured routes -/

/-- A new node is led to by its anchor alone exactly if it does not bear the name of the way out
while there is one, nor, behind its anchor, the name of the routes to be taken over. -/
theorem capturesNothing_iff
    (admits : ∀ node ∈ graph.nodes, ∀ route ∈ node.routing, graph.Admits route)
    (plain : graph.IsUnrouted (.str placeholderTarget))
    (made : Plan.make graph request catalog = .ok plan) :
    graph.CapturesNothing plan ↔
      (plan.node.id = .str outTarget → graph.IsUnrouted (.str outTarget)) ∧
      (plan.node.id = .str placeholderTarget → plan.GoesBehind graph →
        ∀ result, graph.apply plan ≠ .ok result) := by
  have unknown := Plan.fresh_of_make made
  obtain ⟨⟨name, named⟩, -⟩ := Plan.node_of_make made
  constructor
  · intro free
    refine ⟨fun isOut => isOut ▸ free.unrouted, fun isPlaceholder behind result applied => ?_⟩
    obtain ⟨-, inserted⟩ := apply_eq_ok_iff.mp applied
    obtain ⟨node, member, other, -, threaded⟩ := inserted.exists_threaded behind
    have unmarked := free.unmarked result applied node member other (.toNode plan.node.id) (by simp [threaded])
    simp [Route.isPlaceholder, Route.toNode, isPlaceholder] at unmarked
  · rintro ⟨exits, marks⟩
    have unrouted : graph.IsUnrouted plan.node.id := by
      by_cases isOut : plan.node.id = .str outTarget
      · exact isOut ▸ exits isOut
      · rw [named] at unknown isOut ⊢
        exact isUnrouted_of_fresh admits unknown fun same => isOut (congrArg _ same)
    refine ⟨unrouted, fun result applied node member other leads => ?_, fun behind result applied => ?_,
      fun result applied node member other route isRoute => ?_⟩
    · obtain ⟨-, inserted⟩ := apply_eq_ok_iff.mp applied
      refine (inserted.cases_of_other member other).resolve_left fun isOld => ?_
      obtain ⟨route, isRoute, leads⟩ := leads
      exact Bool.false_ne_true ((unrouted node isOld route isRoute).symm.trans leads)
    · obtain ⟨-, inserted⟩ := apply_eq_ok_iff.mp applied
      obtain ⟨node, member, -, threaded⟩ := inserted.exists_threaded behind
      exact ⟨node, member, threaded⟩
    · obtain ⟨-, inserted⟩ := apply_eq_ok_iff.mp applied
      rw [Route.isPlaceholder, decide_eq_false_iff_not]
      rcases inserted.cases_of_other member other with isOld | ⟨behind, -, threaded⟩
      · exact isUnrouted_str_iff.mp plain node isOld route isRoute
      · rw [threaded, List.mem_singleton] at isRoute
        subst isRoute
        exact fun same => marks (Option.some.inj same) behind result applied

/-- Two steps, each of which leaves the flow by its name. -/
def exits : Graph where
  header := ⟨.str "exits", .str "messaging", .null, .null, [], [], .null, .null⟩
  entrypoints := [(.str "default", .str "ask")]
  nodes := [⟨.str "ask", .template "Sure?", [.toNode (.str outTarget)], []⟩,
    ⟨.str "tell", .template "Bye.", [.toNode (.str outTarget)], []⟩]
  names_distinct := by decide
  ids_distinct := by decide

/-- A pause behind the first of them, under a name. -/
def pauseNamed (name : String) : Request where
  after := some "ask"
  hint := some name
  node := .map [(.str "template", .str "wait"),
    (.str "routing", .list [.map [(.str "to", .str placeholderTarget)]])]
  allowCycles := false
  requirePlaceholder := true

def pauseNamedPlan (name : String) : Plan where
  anchor := "ask"
  node := ⟨.str name, .template "wait", [.toNode (.str outTarget)], []⟩
  priorRouting := [.toNode (.str outTarget)]
  precedesEntry := false
  allowCycles := false

theorem admits_exits : ∀ node ∈ exits.nodes, ∀ route ∈ node.routing, exits.Admits route := by
  intro node member route isRoute target isTarget
  have leaves : ∀ node ∈ exits.nodes, node.routing = [.toNode (.str outTarget)] := by decide
  rw [leaves node member, List.mem_singleton] at isRoute
  subst isRoute
  exact .inl (Option.some.inj isTarget).symm

theorem capturesNothing_iff_exits :
    (∀ node ∈ exits.nodes, ∀ route ∈ node.routing, exits.Admits route) ∧
    exits.IsUnrouted (.str placeholderTarget) ∧
    Plan.make exits (pauseNamed "pause") none = .ok (pauseNamedPlan "pause") ∧
    exits.CapturesNothing (pauseNamedPlan "pause") := by
  have plain : exits.IsUnrouted (.str placeholderTarget) := by decide
  have made : Plan.make exits (pauseNamed "pause") none = .ok (pauseNamedPlan "pause") := by
    decide +kernel
  have free := (capturesNothing_iff admits_exits plain made).mpr
    ⟨fun isOut => absurd isOut (by decide), fun isPlaceholder => absurd isPlaceholder (by decide)⟩
  exact ⟨admits_exits, plain, made, free⟩

/-- A step that is named like the way out comes into the way of the other step. -/
theorem not_capturesNothing_exits :
    (∀ node ∈ exits.nodes, ∀ route ∈ node.routing, exits.Admits route) ∧
    exits.IsUnrouted (.str placeholderTarget) ∧
    Plan.make exits (pauseNamed outTarget) none = .ok (pauseNamedPlan outTarget) ∧
    ¬ exits.CapturesNothing (pauseNamedPlan outTarget) := by
  refine ⟨admits_exits, by decide, by decide +kernel, fun free => ?_⟩
  exact absurd free.unrouted (by decide)

end Graph

end StepFlow
