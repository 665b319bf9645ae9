import Mathlib.Data.List.Nodup
import StepFlow.Flow.Graph

/-! Looking up nodes. Ids are unique, so a key finds one node at most, and finding a node is
the same as being one of that key. -/
namespace StepFlow.Graph

variable {graph : Graph} {id : Scalar} {node other : Node}

theorem mem_keys {key : Identity} : key ∈ graph.keys ↔ ∃ node ∈ graph.nodes, node.key = key := by
  simp only [keys, List.mem_map]

theorem key_mem_keys (member : node ∈ graph.nodes) : node.key ∈ graph.keys :=
  mem_keys.mpr ⟨node, member, rfl⟩

theorem eq_of_key_eq (member : node ∈ graph.nodes) (another : other ∈ graph.nodes)
    (same : node.key = other.key) : node = other :=
  List.inj_on_of_nodup_map graph.ids_distinct member another same

theorem nodup_ids : graph.ids.Nodup := by
  refine List.Nodup.of_map Scalar.identity ?_
  rw [ids, List.map_map]
  exact graph.ids_distinct

theorem node?_eq_some_iff :
    graph.node? id = some node ↔ node ∈ graph.nodes ∧ node.key = id.identity := by
  unfold node?
  constructor
  · intro found
    have same := List.find?_some found
    exact ⟨List.mem_of_find?_eq_some found, Scalar.same_iff.mp same⟩
  · rintro ⟨member, same⟩
    have isSome : (graph.nodes.find? (·.id.same id)).isSome :=
      List.find?_isSome.mpr ⟨node, member, Scalar.same_iff.mpr same⟩
    obtain ⟨first, found⟩ := Option.isSome_iff_exists.mp isSome
    have firstSame := List.find?_some found
    rw [found, eq_of_key_eq (List.mem_of_find?_eq_some found) member
      ((Scalar.same_iff.mp firstSame).trans same.symm)]

/-- Every node is found under its own id. -/
theorem node?_id (member : node ∈ graph.nodes) : graph.node? node.id = some node :=
  node?_eq_some_iff.mpr ⟨member, rfl⟩

theorem hasNode_iff_exists :
    graph.hasNode id = true ↔ ∃ node ∈ graph.nodes, node.key = id.identity :=
  hasNode_iff.trans mem_keys

theorem hasNode_of_node? (found : graph.node? id = some node) : graph.hasNode id = true :=
  hasNode_iff_exists.mpr ⟨node, node?_eq_some_iff.mp found⟩

theorem node?_eq_none_iff : graph.node? id = none ↔ graph.hasNode id = false := by
  simp [node?, hasNode]

theorem nodes_ne_nil (known : graph.hasNode id = true) : graph.nodes ≠ [] := by
  obtain ⟨node, isNode, -⟩ := hasNode_iff_exists.mp known
  exact List.ne_nil_of_mem isNode

/-- Every id is a text. -/
def HasTextIds (graph : Graph) : Prop :=
  ∀ node ∈ graph.nodes, ∃ s, node.id = .str s

/-- The target of every entrypoint is a text. -/
def HasTextTargets (graph : Graph) : Prop :=
  ∀ entry ∈ graph.entrypoints, ∃ s, entry.2 = .str s

/-- Texts have one spelling only. -/
theorem HasTextIds.exists_id (texts : graph.HasTextIds) (known : graph.hasNode id = true) :
    ∃ node ∈ graph.nodes, node.id = id := by
  obtain ⟨node, isNode, sameKey⟩ := hasNode_iff_exists.mp known
  obtain ⟨s, isText⟩ := texts node isNode
  have same : id.same (.str s) = true := by rw [Scalar.same_iff, ← sameKey, Node.key, isText]
  exact ⟨node, isNode, isText.trans ((Scalar.same_str _ _).mp same).symm⟩

theorem HasTextIds.isNaN_eq_false (texts : graph.HasTextIds) (known : graph.hasNode id = true) :
    id.isNaN = false := by
  obtain ⟨node, isNode, rfl⟩ := texts.exists_id known
  obtain ⟨s, isText⟩ := texts node isNode
  rw [isText]
  rfl

end StepFlow.Graph
