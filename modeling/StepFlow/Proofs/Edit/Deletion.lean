import Mathlib.Data.List.Perm.Subperm
import StepFlow.Edit.Delete
import StepFlow.Proofs.Flow.Paths
import StepFlow.Proofs.Flow.Substitution

/-! Deleting a node by splicing. Main statement: the edges that are left are those of the
graph with the deleted node passed over, so that between other nodes nothing becomes or stops
being reachable. -/
namespace StepFlow.Graph

variable {graph result : Graph} {id : Scalar} {node deleted : Node} {fanIn : FanIn}
  {strategy : Strategy} {key : Identity}

theorem delete_eq_ok_iff :
    graph.delete id strategy fanIn = .ok result ↔ ∃ node, graph.node? id = some node ∧
      ((id.isNaN = true ∧ result = graph) ∨
        (id.isNaN = false ∧ ((graph.predecessors id).length ≤ 1 ∨ fanIn = .spliceAll) ∧
          result = (graph.repair id node.routing strategy).remove id)) := by
  unfold delete
  cases graph.node? id with
  | none => simp
  | some node =>
    cases id.isNaN with
    | true => simp [eq_comm]
    | false =>
      rcases Nat.lt_or_ge 1 (graph.predecessors id).length with several | few
      · cases fanIn <;> simp [several, Nat.not_le.mpr several, eq_comm]
      · simp [few, Nat.not_lt.mpr few, eq_comm]

/-- Only one other node leads to the one that is deleted. -/
theorem length_predecessors_le_one
    (only : ∀ other ∈ graph.nodes, other.key ≠ id.identity → other.LeadsTo id.identity →
      other = node) : (graph.predecessors id).length ≤ 1 := by
  have distinct : graph.nodes.Nodup := List.Nodup.of_map _ graph.ids_distinct
  rw [predecessors, List.length_map, ← List.length_singleton (a := node)]
  refine (List.subperm_of_subset (distinct.filter _) fun other member => ?_).length_le
  simp only [List.mem_filter, Bool.and_eq_true, Bool.not_eq_true', Bool.eq_false_iff, ne_eq,
    Scalar.same_iff, List.any_eq_true] at member
  obtain ⟨isNode, differ, route, isRoute, leads⟩ := member
  exact List.mem_singleton.mpr
    (only other isNode differ ⟨route, isRoute, Route.leadsTo_iff_identity.mp leads⟩)

/-! ### Routes -/

theorem mem_replacement_of_target {route : Route} {routing : List Route} {target : Scalar}
    (member : route ∈ routing) (leads : route.target = some target)
    (away : route.leadsTo id = false) : route ∈ replacement id routing := by
  have outgoing : route ∈ routing.filter fun route => !route.leadsTo id :=
    List.mem_filter.mpr ⟨member, by simp [away]⟩
  simp only [replacement]
  split
  · rename_i terminal
    have isTerminal := List.all_eq_true.mp terminal route outgoing
    simp [Route.isTerminal, leads] at isTerminal
  · exact outgoing

theorem mem_of_mem_replacement {route : Route} {routing : List Route}
    (member : route ∈ replacement id routing) : route ∈ routing ∧ route.leadsTo id = false := by
  simp only [replacement] at member
  split at member
  · contradiction
  · simpa using List.mem_filter.mp member

theorem substitutes_spliceRoutes {routes routing : List Route} :
    Substitutes (fun route => route.leadsTo id) routes routing (spliceRoutes id routes routing) :=
  .flatMap _ routes routing

theorem mem_spliceRoutes {route : Route} {routes routing : List Route} :
    route ∈ spliceRoutes id routes routing ↔ (route ∈ routing ∧ route.leadsTo id = false) ∨
      (route ∈ routes ∧ ∃ cut ∈ routing, cut.leadsTo id = true) :=
  substitutes_spliceRoutes.mem_iff

theorem leadsTo_splice (differ : key ≠ id.identity) :
    (node.withRouting (spliceRoutes id (replacement id deleted.routing) node.routing)).LeadsTo key ↔
      node.LeadsTo key ∨ node.LeadsTo id.identity ∧ deleted.LeadsTo key := by
  have away {route : Route} (leads : route.target.map Scalar.identity = some key) :
      route.leadsTo id = false := by
    rw [Bool.eq_false_iff]
    intro back
    rw [Ne, Route.leadsTo_iff_identity, leads, Option.some.injEq] at *
    exact differ back
  constructor
  · rintro ⟨route, member, leads⟩
    rcases mem_spliceRoutes.mp member with ⟨member, -⟩ | ⟨placed, cut, member, back⟩
    · exact .inl ⟨route, member, leads⟩
    · exact .inr ⟨⟨cut, member, Route.leadsTo_iff_identity.mp back⟩,
        route, (mem_of_mem_replacement placed).1, leads⟩
  · rintro (⟨route, member, leads⟩ | ⟨⟨cut, member, back⟩, route, placed, leads⟩)
    · exact ⟨route, mem_spliceRoutes.mpr (.inl ⟨member, away leads⟩), leads⟩
    · obtain ⟨target, atTarget, -⟩ := Option.map_eq_some_iff.mp leads
      have inherited := mem_replacement_of_target placed atTarget (away leads)
      exact ⟨route, mem_spliceRoutes.mpr
        (.inr ⟨inherited, cut, member, Route.leadsTo_iff_identity.mpr back⟩), leads⟩

/-! ### Nodes -/

theorem mem_keys_remove : key ∈ (graph.remove id).keys ↔ key ∈ graph.keys ∧ key ≠ id.identity := by
  simp only [mem_keys, remove, retarget, eraseNode, List.mem_filter, Bool.not_eq_true',
    Bool.eq_false_iff, ne_eq, Scalar.same_iff]
  constructor
  · rintro ⟨node, ⟨member, differ⟩, rfl⟩
    exact ⟨⟨node, member, rfl⟩, differ⟩
  · rintro ⟨⟨node, member, rfl⟩, differ⟩
    exact ⟨node, ⟨member, differ⟩, rfl⟩

theorem mem_nodes_remove :
    node ∈ (graph.remove id).nodes ↔ node ∈ graph.nodes ∧ node.key ≠ id.identity := by
  simp only [remove, retarget, eraseNode, List.mem_filter, Bool.not_eq_true', Bool.eq_false_iff,
    ne_eq, Scalar.same_iff, Node.key]

/-- Entrypoints to the deleted node lead to the first one that is left. -/
theorem entrypoints_remove : (graph.remove id).entrypoints = graph.entrypoints.map fun entry =>
    (entry.1, if entry.2.denotes id then .scalar ((graph.remove id).ids.head?.getD nowhere)
      else entry.2) := rfl

theorem ids_spliceAll (routes : List Route) : (graph.spliceAll id routes).ids = graph.ids :=
  ids_mapNodes

theorem keys_spliceAll (routes : List Route) : (graph.spliceAll id routes).keys = graph.keys :=
  keys_mapNodes

/-- The graph without a node, whose own routes are these, and with those to it spliced. -/
abbrev spliceOut (graph : Graph) (id : Scalar) (routing : List Route) : Graph :=
  (graph.repair id routing .splice).remove id

theorem mem_keys_spliceOut {routing : List Route} :
    key ∈ (graph.spliceOut id routing).keys ↔ key ∈ graph.keys ∧ key ≠ id.identity := by
  rw [mem_keys_remove, repair, keys_spliceAll]

theorem mem_nodes_spliceOut {routing : List Route} :
    node ∈ (graph.spliceOut id routing).nodes ↔ ∃ old ∈ graph.nodes, old.key ≠ id.identity ∧
      old.withRouting (spliceRoutes id (replacement id routing) old.routing) = node := by
  rw [mem_nodes_remove]
  constructor
  · rintro ⟨member, differ⟩
    obtain ⟨old, isOld, rfl⟩ := List.mem_map.mp member
    exact ⟨old, isOld, differ, rfl⟩
  · rintro ⟨old, isOld, differ, rfl⟩
    exact ⟨List.mem_map.mpr ⟨old, isOld, rfl⟩, differ⟩

theorem edge_spliceOut (found : graph.node? id = some deleted) :
    (graph.spliceOut id deleted.routing).Edge = Bypass graph.Edge id.identity := by
  obtain ⟨isDeleted, sameKey⟩ := node?_eq_some_iff.mp found
  have isKey : id.identity ∈ graph.keys := sameKey ▸ key_mem_keys isDeleted
  apply edge_eq_bypass
  · simp [mem_keys_spliceOut]
  · intro key
    rw [mem_keys_spliceOut]
    by_cases same : key = id.identity <;> simp [same, isKey]
  · intro node member key target
    obtain ⟨known, differ⟩ := mem_keys_spliceOut.mp target
    obtain ⟨old, isOld, -, rfl⟩ := mem_nodes_spliceOut.mp member
    rw [leadsTo_splice differ, Node.withRouting_key, edge_iff_of_key isDeleted sameKey,
      edge_iff_of_key isOld rfl, edge_iff_of_key isOld rfl]
    simp [known, isKey]

/-- Between the nodes that stay, splicing opens no way and closes none. -/
theorem reaches_delete_splice_iff {a b : Identity}
    (succeeds : graph.delete id .splice fanIn = .ok result) (source : a ≠ id.identity)
    (target : b ≠ id.identity) :
    (graph.Reaches a b ↔ result.Reaches a b) ∧ (graph.IsOnCycle a ↔ result.IsOnCycle a) := by
  obtain ⟨deleted, found, ⟨-, rfl⟩ | ⟨-, -, rfl⟩⟩ := delete_eq_ok_iff.mp succeeds
  · exact ⟨.rfl, .rfl⟩
  · simp only [IsOnCycle, Reaches, edge_spliceOut found]
    exact ⟨(Bypass.transGen_iff source target).symm, (Bypass.transGen_iff source source).symm⟩

/-- A relay that two nodes lead to, that leads back to itself, and that also answers. -/
def relay : Graph where
  header := ⟨.str "relay", .str "messaging", .null, .null, [], [], .null, .null⟩
  entrypoints := [(.str "default", .str "first")]
  nodes := [
    ⟨.str "first", .template "hello", [.toNode "relay", .toNode "second"], []⟩,
    ⟨.str "relay", .template "again", [.toNode "relay", .answer, .toNode "first"], []⟩,
    ⟨.str "second", .template "bye", [.toNode "relay"], []⟩]
  names_distinct := by decide
  ids_distinct := by decide

theorem hasTextIds_relay : relay.HasTextIds := by
  simp [HasTextIds, relay]

theorem reaches_delete_relay :
    ∃ result, relay.delete "relay" .splice .spliceAll = .ok result ∧
      (relay.Reaches (.str "second") (.str "first") ↔
        result.Reaches (.str "second") (.str "first")) ∧
      (relay.IsOnCycle (.str "second") ↔ result.IsOnCycle (.str "second")) := by
  have succeeds : relay.delete "relay" .splice .spliceAll = .ok _ := rfl
  exact ⟨_, succeeds, reaches_delete_splice_iff succeeds (by decide) (by decide)⟩

end StepFlow.Graph
