import StepFlow.Document.Text
import StepFlow.Proofs.Document.Routing
import StepFlow.Proofs.Flow.Lookup

/-! Graphs read back from what was written of them. Main statement: a graph whose document
keeps the rules comes back with the same nodes in the same order, each with its routes. -/
namespace StepFlow

open Outcome

/-- None of the extras takes the place of the routes when the node is written. -/
def Node.KeepsRouting (node : Node) : Prop :=
  Keyed.get? node.extras (.str "routing") = none

namespace Node

variable {id : Scalar} {node : Node} {members : Members} {value : Value}

theorem get?_routing_toMembers (keeps : node.KeepsRouting) :
    Keyed.get? node.toMembers (.str "routing") = some (routesToValue node.routing) := by
  rw [toMembers, Keyed.get?_update keeps, Keyed.get?_ofList_concat]

theorem get?_routing_reservedMembers :
    Keyed.get? (reservedMembers members) (.str "routing") = none := by
  rw [Keyed.get?_eq_none_iff]
  intro member isMember
  obtain ⟨key, isReserved, spelled⟩ := List.mem_filterMap.mp isMember
  obtain ⟨value, -, rfl⟩ := Option.map_eq_some_iff.mp spelled
  have apart : ∀ key ∈ reservedKeys, (Scalar.str key).same (.str "routing") = false := by decide
  exact apart key isReserved

theorem get?_routing_strayMembers {packAlias operation : Option String} :
    Keyed.get? (strayMembers packAlias operation) (.str "routing") = none := by
  cases packAlias <;> cases operation <;> rfl

theorem of_ofValue? (read : ofValue? id value = .ok node) :
    node.id = id ∧ node.KeepsRouting ∧ ∃ members, value = .map members ∧
      parseRoutes (Members.get members (.str "routing")) = .ok node.routing := by
  unfold ofValue? at read
  split at read
  · rename_i members
    simp only [bind_eq_ok, atNode, mapError_eq_ok] at read
    obtain ⟨routing, parsed, packAlias, -, operation, -, read⟩ := read
    split at read
    · simp only [bind_eq_ok, pure_eq_ok] at read
      obtain ⟨kind, -, rfl⟩ := read
      refine ⟨rfl, ?_, members, rfl, parsed⟩
      rw [KeepsRouting, Keyed.get?_append, get?_routing_reservedMembers]
      split
      · rfl
      · exact get?_routing_strayMembers
    · contradiction
    · contradiction
  · contradiction

/-- A node that keeps the rules comes back under its id with its routes. -/
theorem routing_of_ofValue?_toMembers (keeps : node.KeepsRouting)
    (kept : Schema.node (.map node.toMembers) = []) {reread : Node}
    (read : ofValue? id (.map node.toMembers) = .ok reread) : reread.routing = node.routing := by
  obtain ⟨-, -, members, isMap, parsed⟩ := of_ofValue? read
  obtain rfl := Value.map.inj isMap
  have written := get?_routing_toMembers keeps
  rw [Members.get, written, Option.getD_some,
    parseRoutes_of_kept (Schema.routing_of_node kept written)] at parsed
  exact (Except.ok.inj parsed).symm

end Node

/-! ### Nodes of a document -/

theorem mem_of_mem_setNode {node other : Node} {nodes : List Node}
    (member : other ∈ setNode node nodes) : other = node ∨ other ∈ nodes := by
  induction nodes with
  | nil => exact .inl (List.mem_singleton.mp member)
  | cons first rest ih =>
    unfold setNode at member
    split at member
    · exact (List.mem_cons.mp member).imp_right (.tail _)
    · rcases List.mem_cons.mp member with rfl | later
      · exact .inr (.head _)
      · exact (ih later).imp_right (.tail _)

theorem setNode_of_not_mem {node : Node} {nodes : List Node}
    (unknown : node.key ∉ nodes.map Node.key) : setNode node nodes = nodes ++ [node] := by
  induction nodes with
  | nil => rfl
  | cons first rest ih =>
    simp only [List.map_cons, List.mem_cons, not_or] at unknown
    rw [setNode, if_neg fun same => unknown.1 same.symm, ih unknown.2]
    rfl

theorem mem_of_mem_distinctNodes {node : Node} {nodes : List Node}
    (member : node ∈ distinctNodes nodes) : node ∈ nodes := by
  suffices ∀ known, node ∈ nodes.foldl (fun nodes node => setNode node nodes) known →
      node ∈ known ∨ node ∈ nodes from (this [] member).resolve_left (by simp)
  clear member
  induction nodes with
  | nil => exact fun _ => .inl
  | cons first rest ih =>
    intro known member
    rcases ih _ member with placed | later
    · exact (mem_of_mem_setNode placed).elim (fun same => .inr (same ▸ .head _)) .inl
    · exact .inr (.tail _ later)

theorem distinctNodes_eq_self {nodes : List Node} (distinct : (nodes.map Node.key).Nodup) :
    distinctNodes nodes = nodes := by
  suffices ∀ known : List Node, ((known ++ nodes).map Node.key).Nodup →
      nodes.foldl (fun nodes node => setNode node nodes) known = known ++ nodes from
    this [] distinct
  clear distinct
  induction nodes with
  | nil => simp
  | cons first rest ih =>
    intro known distinct
    have unknown : first.key ∉ known.map Node.key := by
      simp only [List.map_append, List.map_cons, List.nodup_append] at distinct
      exact fun member => distinct.2.2 _ member _ (.head _) rfl
    rw [List.foldl_cons, setNode_of_not_mem unknown, ih _ (by simpa using distinct)]
    simp

namespace Graph

variable {graph reread : Graph} {document : Members}

theorem nodes_of_ofDocument? (read : ofDocument? (.map document) = .ok graph) :
    ∃ nodes, nodesOf document = .ok nodes ∧ graph.nodes = distinctNodes nodes := by
  simp only [ofDocument?, bind_eq_ok, pure_eq_ok] at read
  obtain ⟨nodes, isNodes, -, -, -, -, -, -, -, -, -, -, rfl⟩ := read
  exact ⟨nodes, isNodes, rfl⟩

/-- Each node was read from a member of the document under its id. -/
theorem exists_ofValue?_of_ofDocument? (read : ofDocument? (.map document) = .ok graph) {node : Node}
    (member : node ∈ graph.nodes) : ∃ members value,
      Keyed.get? document (.str "nodes") = some (.map members) ∧ (node.id, value) ∈ members ∧
        Node.ofValue? node.id value = .ok node := by
  obtain ⟨nodes, isNodes, same⟩ := nodes_of_ofDocument? read
  have isRead := mem_of_mem_distinctNodes (same ▸ member)
  unfold nodesOf at isNodes
  split at isNodes
  · cases isNodes
    contradiction
  · rename_i members given
    obtain ⟨⟨id, value⟩, isMember, once⟩ := exists_of_mem_mapM isNodes isRead
    have sameId := (Node.of_ofValue? once).1
    exact ⟨members, value, (Option.filter_eq_some_iff.mp given).1, sameId ▸ isMember, sameId ▸ once⟩
  · contradiction

/-- What is read from a document keeps the routes of its nodes. -/
theorem keepsRouting_of_ofDocument? (read : ofDocument? (.map document) = .ok graph) :
    ∀ node ∈ graph.nodes, node.KeepsRouting := by
  intro node member
  obtain ⟨members, value, -, -, once⟩ := exists_ofValue?_of_ofDocument? read member
  exact (Node.of_ofValue? once).2.1

theorem get?_optionalMember {key : String} {value : Value} {name : Scalar}
    (differ : (Scalar.str key).same name = false) :
    Keyed.get? (optionalMember key value) name = none := by
  unfold optionalMember
  split <;> simp [differ]

theorem get?_nodes_toDocument : Keyed.get? graph.toDocument (.str "nodes") =
    some (.map (graph.nodes.map fun node => (node.id, .map node.toMembers))) := by
  simp only [toDocument, Keyed.get?_append]
  cases graph.entry? <;> cases graph.header.schemaVersion.isNull <;>
    simp (disch := decide) [get?_optionalMember]

/-- The ids of the nodes in order, each with its routes. -/
def outline (graph : Graph) : List (Scalar × List Route) :=
  graph.nodes.map fun node => (node.id, node.routing)

theorem hasNode_iff_outline {id : Scalar} :
    graph.hasNode id = true ↔ ∃ entry ∈ graph.outline, entry.1.same id = true := by
  simp [hasNode, outline]

theorem nodesOf_toDocument : nodesOf graph.toDocument =
    graph.nodes.mapM fun node => Node.ofValue? node.id (.map node.toMembers) := by
  unfold nodesOf given?
  rw [get?_nodes_toDocument]
  cases graph.nodes with
  | nil => rfl
  | cons => exact List.mapM_map

/-- A graph whose document keeps the rules comes back with the same ids and routes. -/
theorem outline_of_ofDocument?_toDocument (keeps : ∀ node ∈ graph.nodes, node.KeepsRouting)
    (kept : Schema.document (.map graph.toDocument) = [])
    (read : ofDocument? (.map graph.toDocument) = .ok reread) : reread.outline = graph.outline := by
  obtain ⟨nodes, isNodes, same⟩ := nodes_of_ofDocument? read
  rw [nodesOf_toDocument, mapM_eq_ok] at isNodes
  have keptNode : ∀ node ∈ graph.nodes, Schema.node (.map node.toMembers) = [] := fun node member =>
    Schema.node_of_document kept get?_nodes_toDocument (List.mem_map_of_mem member)
  have outlines : graph.outline = nodes.map fun node => (node.id, node.routing) := by
    rw [outline, ← List.forall₂_eq_eq_eq, List.forall₂_map_left_iff, List.forall₂_map_right_iff]
    have each := (List.forall₂_and_left _ _).mpr ⟨fun node member =>
      And.intro (keeps node member) (keptNode node member), isNodes⟩
    refine each.imp fun node once ⟨⟨keeps, kept⟩, read⟩ => ?_
    rw [(Node.of_ofValue? read).1, Node.routing_of_ofValue?_toMembers keeps kept read]
  have distinct : (nodes.map Node.key).Nodup := by
    have keys := congrArg (List.map fun entry => entry.1.identity) outlines
    rw [outline, List.map_map, List.map_map] at keys
    exact keys ▸ graph.ids_distinct
  rw [outline, same, distinctNodes_eq_self distinct, outlines]

section Text

variable [Installation]

/-- A text is loaded as the graph of the document that it spells, under whichever label. -/
theorem load_eq_ok_iff {text label : String} : load text label = .ok graph ↔
    ∃ members, Yaml.read text = .ok (.map members) ∧ Schema.violations (.map members) = .ok [] ∧
      ofDocument? (.map members) = .ok graph := by
  have parsed {members : Members} : parseDocument text label = .ok members ↔
      Yaml.read text = .ok (.map members) := by
    unfold parseDocument
    split <;> simp_all
  have checked {members : Members} : ofChecked? members label = .ok graph ↔
      Schema.violations (.map members) = .ok [] ∧ ofDocument? (.map members) = .ok graph := by
    unfold ofChecked?
    split
    · rename_i kept
      simp [kept]
    · rename_i broken found
      simpa [found] using fun none => absurd none broken
    · rename_i failed
      simp [failed]
  simp only [load, bind_eq_ok, parsed, checked]

variable [Execution]

/-- The text of the graph spells the document that it was written from. -/
def IsReadBack (graph : Graph) : Prop :=
  Yaml.read graph.render = .ok (.map graph.toDocument)

theorem render_of_dump {text : String} (dumped : graph.dump = .ok text) : text = graph.render := by
  simp only [dump, bind_eq_ok] at dumped
  obtain ⟨-, -, rendered⟩ := dumped
  by_cases deep : Installation.writingDepth < (Value.map graph.toDocument).depth
  · rw [if_pos deep] at rendered
    cases rendered
  · rw [if_neg deep] at rendered
    exact (Except.ok.inj rendered).symm

theorem confirm_eq_ok_iff : graph.confirm = .ok reread ↔
    graph.dump = .ok graph.render ∧ ∃ members, Yaml.read graph.render = .ok (.map members) ∧
      Schema.violations (.map members) = .ok [] ∧ ofDocument? (.map members) = .ok reread := by
  rw [confirm, bind_eq_ok]
  constructor
  · rintro ⟨text, dumped, loaded⟩
    obtain rfl := render_of_dump dumped
    exact ⟨dumped, load_eq_ok_iff.mp loaded⟩
  · rintro ⟨dumped, spelled⟩
    exact ⟨graph.render, dumped, load_eq_ok_iff.mpr spelled⟩

theorem ofDocument?_of_confirm (readBack : graph.IsReadBack)
    (confirmed : graph.confirm = .ok reread) :
    Schema.document (.map graph.toDocument) = [] ∧
      ofDocument? (.map graph.toDocument) = .ok reread := by
  obtain ⟨-, members, spelled, kept, read⟩ := confirm_eq_ok_iff.mp confirmed
  cases readBack.symm.trans spelled
  exact ⟨Schema.violations_eq_ok_nil_iff.mp kept, read⟩

theorem outline_of_confirm (keeps : ∀ node ∈ graph.nodes, node.KeepsRouting)
    (readBack : graph.IsReadBack) (confirmed : graph.confirm = .ok reread) :
    reread.outline = graph.outline :=
  have ⟨kept, read⟩ := ofDocument?_of_confirm readBack confirmed
  outline_of_ofDocument?_toDocument keeps kept read

end Text

end Graph

end StepFlow
