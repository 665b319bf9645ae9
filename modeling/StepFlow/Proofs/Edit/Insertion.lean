import StepFlow.Edit.Insert
import StepFlow.Proofs.Edit.Planning
import StepFlow.Proofs.Flow.Paths

/-! Inserting a node. Main statement: a node that takes over the routes of its anchor, or
leads to it, is passed over by every path; so the flow goes where it went before. -/
namespace StepFlow

open Outcome

theorem mem_insertBeside_iff {before : Bool} {anchor : Scalar} {new node : Node}
    {nodes : List Node} (found : ∃ old ∈ nodes, old.id.same anchor = true) :
    node ∈ insertBeside before anchor new nodes ↔ node = new ∨ node ∈ nodes := by
  induction nodes with
  | nil => simp at found
  | cons first rest ih =>
    unfold insertBeside
    by_cases here : first.id.same anchor = true
    · cases before <;> simp [here, or_left_comm]
    · obtain ⟨old, member, isAnchor⟩ := found
      rcases List.mem_cons.mp member with rfl | later
      · exact absurd isAnchor here
      · simp only [here, Bool.false_eq_true, if_false, List.mem_cons, ih ⟨old, later, isAnchor⟩]
        exact or_left_comm

theorem Node.leadsTo_toNode {node : Node} {id : Scalar} {key : Identity} :
    (node.withRouting [.toNode id]).LeadsTo key ↔ key = id.identity := by
  simp [LeadsTo, withRouting, Route.toNode, eq_comm]

namespace Graph

variable {graph result : Graph} {plan : Plan} {key : Identity}

/-- What applying a plan can come to. -/
inductive Inserted (graph : Graph) (plan : Plan) : Graph → Prop where
  /-- The node is the first of all. -/
  | first : graph.nodes = [] → Inserted graph plan (graph.startWith plan.node)
  /-- No node is equal to the anchor, though one is found. -/
  | nowhere : graph.hasNode plan.anchor = true → plan.anchor.isNaN = true →
      Inserted graph plan graph
  | before (fresh : plan.node.key ∉ graph.keys) : graph.hasNode plan.anchor = true →
      plan.anchor.isNaN = false → plan.precedesEntry = true →
      Inserted graph plan (graph.insertBefore plan fresh)
  | after (fresh : plan.node.key ∉ graph.keys) : graph.hasNode plan.anchor = true →
      plan.anchor.isNaN = false → plan.precedesEntry = false →
      plan.priorRouting.any (closesCycle plan.allowCycles plan.anchor) = false →
      Inserted graph plan (graph.insertAfter plan [.toNode plan.node.id] fresh)

theorem isEmpty_eq_false {id : Scalar} (known : graph.hasNode id = true) :
    graph.isEmpty = false := by
  obtain ⟨node, member, -⟩ := hasNode_iff_exists.mp known
  exact Bool.eq_false_iff.mpr fun empty => by simp_all [isEmpty]

theorem Inserted.of_apply (applied : graph.apply plan = .ok result) :
    plan.node.key ∉ graph.keys ∧ Inserted graph plan result := by
  unfold apply at applied
  split at applied
  · contradiction
  rename_i fresh
  refine ⟨fresh, ?_⟩
  split at applied
  · rename_i empty
    cases applied
    exact .first (List.isEmpty_iff.mp empty)
  split at applied
  · contradiction
  rename_i known
  simp only [Bool.not_eq_true', Bool.not_eq_false] at known
  split at applied
  · rename_i equal
    cases applied
    exact .nowhere known equal
  rename_i equal
  simp only [Bool.not_eq_true] at equal
  split at applied
  · rename_i precedes
    cases applied
    exact .before fresh known equal precedes
  rename_i precedes
  simp only [bind_eq_ok, pure_eq_ok, threadAnchor] at applied
  obtain ⟨threaded, quiet, rfl⟩ := applied
  split at quiet
  · contradiction
  rename_i acyclic
  cases quiet
  exact .after fresh known equal (Bool.eq_false_iff.mpr precedes) (Bool.eq_false_iff.mpr acyclic)

theorem Inserted.apply (inserted : Inserted graph plan result)
    (fresh : plan.node.key ∉ graph.keys) : graph.apply plan = .ok result := by
  unfold Graph.apply
  cases inserted with
  | first empty => simp [fresh, isEmpty, empty]
  | nowhere known equal => simp [fresh, known, isEmpty_eq_false known, equal]
  | before _ known equal precedes =>
    simp [fresh, known, isEmpty_eq_false known, equal, precedes]
  | after _ known equal precedes acyclic =>
    simp only [fresh, dite_false, isEmpty_eq_false known, known, equal, precedes, Bool.not_true,
      Bool.false_eq_true, if_false, threadAnchor, acyclic]
    rfl

theorem apply_eq_ok_iff :
    graph.apply plan = .ok result ↔ plan.node.key ∉ graph.keys ∧ Inserted graph plan result :=
  ⟨Inserted.of_apply, fun ⟨fresh, inserted⟩ => inserted.apply fresh⟩

/-- Every way into a graph of one new node leads to it. -/
theorem target_startWith {new : Node} {entry : Scalar × Value}
    (member : entry ∈ (graph.startWith new).entrypoints) : entry.2 = .scalar new.id := by
  unfold startWith at member
  split at member
  · rw [List.mem_singleton.mp member]
  · obtain ⟨old, -, rfl⟩ := List.mem_map.mp member
    rfl

/-! ### Nodes -/

theorem mem_nodes_insertNode {before : Bool} {anchor : Scalar} {new node : Node}
    (fresh : new.key ∉ graph.keys) (known : graph.hasNode anchor = true) :
    node ∈ (graph.insertNode before anchor new fresh).nodes ↔ node = new ∨ node ∈ graph.nodes :=
  mem_insertBeside_iff (List.any_eq_true.mp known)

theorem mem_keys_insertNode {before : Bool} {anchor : Scalar} {new : Node}
    (fresh : new.key ∉ graph.keys) (known : graph.hasNode anchor = true) :
    key ∈ (graph.insertNode before anchor new fresh).keys ↔ key = new.key ∨ key ∈ graph.keys := by
  simp only [mem_keys, mem_nodes_insertNode fresh known]
  constructor
  · rintro ⟨node, rfl | member, rfl⟩
    · exact .inl rfl
    · exact .inr ⟨node, member, rfl⟩
  · rintro (rfl | ⟨node, member, rfl⟩)
    · exact ⟨new, .inl rfl, rfl⟩
    · exact ⟨node, .inr member, rfl⟩

theorem hasNode_reroute {id anchor : Scalar} {routing : List Route} :
    (graph.reroute anchor routing).hasNode id = graph.hasNode id := by
  rw [Bool.eq_iff_iff, hasNode_iff, hasNode_iff, keys_reroute]

section Beside

variable {node : Node} (threaded : List Route) (fresh : plan.node.key ∉ graph.keys)
  (known : graph.hasNode plan.anchor = true)

include known

theorem mem_nodes_insertBefore : node ∈ (graph.insertBefore plan fresh).nodes ↔
    node = plan.node.withRouting [.toNode plan.anchor] ∨ node ∈ graph.nodes :=
  mem_insertBeside_iff (List.any_eq_true.mp known)

theorem mem_keys_insertBefore : key ∈ (graph.insertBefore plan fresh).keys ↔
    key = plan.node.key ∨ key ∈ graph.keys :=
  mem_keys_insertNode
    (show (plan.node.withRouting [.toNode plan.anchor]).key ∉ graph.keys from fresh) known

theorem mem_nodes_insertAfter : node ∈ (graph.insertAfter plan threaded fresh).nodes ↔
    node = plan.node ∨ ∃ old ∈ graph.nodes,
      (if old.id.same plan.anchor then old.withRouting threaded else old) = node :=
  (mem_nodes_insertNode (by rwa [keys_reroute]) (hasNode_reroute.trans known)).trans
    (or_congr_right List.mem_map)

theorem mem_keys_insertAfter : key ∈ (graph.insertAfter plan threaded fresh).keys ↔
    key = plan.node.key ∨ key ∈ graph.keys := by
  rw [insertAfter, mem_keys_insertNode _ (hasNode_reroute.trans known), keys_reroute]

end Beside

/-! ### Edges -/

/-- No route leads to the id. -/
def IsUnrouted (graph : Graph) (id : Scalar) : Prop :=
  ∀ node ∈ graph.nodes, ∀ route ∈ node.routing, route.leadsTo id = false

instance (graph : Graph) (id : Scalar) : Decidable (graph.IsUnrouted id) :=
  inferInstanceAs (Decidable (∀ node ∈ graph.nodes, ∀ route ∈ node.routing, _ = false))

theorem IsUnrouted.not_leadsTo {id : Scalar} (unrouted : graph.IsUnrouted id) {node : Node}
    (member : node ∈ graph.nodes) : ¬ node.LeadsTo id.identity := by
  rintro ⟨route, isRoute, leads⟩
  have away := unrouted node member route isRoute
  rw [Route.leadsTo_iff_identity.mpr leads] at away
  contradiction

theorem edge_insertBefore (fresh : plan.node.key ∉ graph.keys)
    (known : graph.hasNode plan.anchor = true) (unrouted : graph.IsUnrouted plan.node.id) :
    graph.Edge = Bypass (graph.insertBefore plan fresh).Edge plan.node.key := by
  refine edge_eq_bypass fresh (fun _ => mem_keys_insertBefore fresh known) ?_
  intro node member key target
  have kept := (mem_nodes_insertBefore fresh known).mpr (.inr member)
  have away : ¬ node.LeadsTo plan.node.key := unrouted.not_leadsTo member
  rw [edge_iff_of_key kept rfl, edge_iff_of_key kept rfl]
  simp [mem_keys_insertBefore fresh known, target, away]

theorem edge_insertAfter {anchor : Node} (fresh : plan.node.key ∉ graph.keys)
    (found : graph.node? plan.anchor = some anchor) (takes : plan.node.routing = anchor.routing)
    (unrouted : graph.IsUnrouted plan.node.id) :
    graph.Edge =
      Bypass (graph.insertAfter plan [.toNode plan.node.id] fresh).Edge plan.node.key := by
  obtain ⟨isAnchor, sameKey⟩ := node?_eq_some_iff.mp found
  have known := hasNode_of_node? found
  refine edge_eq_bypass fresh (fun _ => mem_keys_insertAfter _ fresh known) ?_
  intro node member key target
  have other : key ≠ plan.node.id.identity := by
    rintro rfl
    exact fresh target
  have isNew := (mem_nodes_insertAfter [.toNode plan.node.id] fresh known).mpr (.inl rfl)
  by_cases here : node.id.same plan.anchor = true
  · -- the anchor leads to the new node only, and the new node where the anchor led
    obtain rfl : node = anchor :=
      eq_of_key_eq member isAnchor ((Scalar.same_iff.mp here).trans sameKey.symm)
    have rerouted := (mem_nodes_insertAfter [.toNode plan.node.id] fresh known).mpr
      (.inr ⟨node, member, if_pos here⟩)
    have source : (node.withRouting [.toNode plan.node.id]).key = node.key := rfl
    rw [edge_iff_of_key isNew rfl, edge_iff_of_key rerouted source,
      edge_iff_of_key rerouted source]
    have taken : plan.node.LeadsTo key ↔ node.LeadsTo key := by simp only [Node.LeadsTo, takes]
    simp [Node.leadsTo_toNode, mem_keys_insertAfter _ fresh known, target, other, taken, Node.key]
  · have kept := (mem_nodes_insertAfter [.toNode plan.node.id] fresh known).mpr
      (.inr ⟨node, member, if_neg here⟩)
    have away : ¬ node.LeadsTo plan.node.key := unrouted.not_leadsTo member
    rw [edge_iff_of_key kept rfl, edge_iff_of_key kept rfl]
    simp [mem_keys_insertAfter _ fresh known, target, away]

end Graph

end StepFlow
