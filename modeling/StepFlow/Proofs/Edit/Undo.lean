import StepFlow.Proofs.Edit.Takeover

/-! Taking an insertion back. Main statement: a node that took over its anchor's routes can be
spliced out again, and then the graph is what it was, unless all those routes are ways out or
the entry was not the first node. -/
namespace StepFlow

open Outcome

theorem filter_insertBeside {before : Bool} {anchor id : Scalar} {new : Node} {nodes : List Node}
    (isNew : new.id.same id = true) :
    (insertBeside before anchor new nodes).filter (fun node => !node.id.same id) =
      nodes.filter fun node => !node.id.same id := by
  induction nodes with
  | nil => rfl
  | cons first rest ih =>
    unfold insertBeside
    split
    · cases before <;> simp [List.filter_cons, isNew]
    · simp only [List.filter_cons, ih]

namespace Graph

variable {graph result : Graph} {request : Request} {catalog : Option Catalog} {plan : Plan}
  {id : Scalar} {fanIn : FanIn}

theorem spliceRoutes_eq_self {routes routing : List Route}
    (away : ∀ route ∈ routing, route.leadsTo id = false) :
    spliceRoutes id routes routing = routing := by
  induction routing with
  | nil => rfl
  | cons route routing ih =>
    have rest := ih fun route member => away route (by simp [member])
    simp only [spliceRoutes, List.flatMap_cons, away route (by simp)] at rest ⊢
    simp [rest]

theorem replacement_eq_self {routing : List Route}
    (away : ∀ route ∈ routing, route.leadsTo id = false)
    (onward : ∃ route ∈ routing, route.isTerminal = false) : replacement id routing = routing := by
  obtain ⟨route, member, notTerminal⟩ := onward
  have kept : routing.filter (fun route => !route.leadsTo id) = routing :=
    List.filter_eq_self.mpr fun route member => by simp [away route member]
  have some_left : routing.all Route.isTerminal = false :=
    List.all_eq_false.mpr ⟨route, member, by simp [notTerminal]⟩
  simp [replacement, kept, some_left]

theorem filter_nodes_of_fresh (fresh : id.identity ∉ graph.keys) :
    graph.nodes.filter (fun node => !node.id.same id) = graph.nodes := by
  refine List.filter_eq_self.mpr fun node member => ?_
  rw [Bool.not_eq_true', Bool.eq_false_iff, ne_eq, Scalar.same_iff]
  intro same
  exact fresh (mem_keys.mpr ⟨node, member, same⟩)

/-- Splicing a new node out again leaves the other nodes where they were. -/
theorem nodes_spliceOut_insertNode {before : Bool} {anchor : Scalar} {new : Node}
    (fresh : new.key ∉ graph.keys) (routing : List Route) :
    ((graph.insertNode before anchor new fresh).spliceOut new.id routing).nodes =
      graph.nodes.map fun node =>
        node.withRouting (spliceRoutes new.id (replacement new.id routing) node.routing) := by
  simp only [spliceOut, remove, repair, retarget, eraseNode, spliceAll, mapNodes, insertNode,
    List.filter_map]
  change List.map _ ((insertBeside before anchor new graph.nodes).filter
    fun node => !node.id.same new.id) = _
  rw [filter_insertBeside (Scalar.same_refl _), filter_nodes_of_fresh fresh]

/-- No entrypoint leads to the id. -/
def IsUnentered (graph : Graph) (id : Scalar) : Prop :=
  ∀ entry ∈ graph.entrypoints, entry.2.denotes id = false

instance (graph : Graph) (id : Scalar) : Decidable (graph.IsUnentered id) :=
  inferInstanceAs (Decidable (∀ entry ∈ graph.entrypoints, _ = false))

theorem entrypoints_remove_eq_self (unentered : graph.IsUnentered id) :
    (graph.remove id).entrypoints = graph.entrypoints := by
  rw [entrypoints_remove]
  refine (List.map_congr_left fun entry member => ?_).trans (List.map_id' _)
  simp [unentered entry member]

section After

variable {anchor : Node} (fresh : plan.node.key ∉ graph.keys)
  (found : graph.node? plan.anchor = some anchor) (unrouted : graph.IsUnrouted plan.node.id)

include found unrouted

/-- Nothing but the anchor leads to a node behind it. -/
theorem length_predecessors_insertAfter :
    ((graph.insertAfter plan [.toNode plan.node.id] fresh).predecessors plan.node.id).length ≤ 1 := by
  obtain ⟨isAnchor, sameKey⟩ := node?_eq_some_iff.mp found
  have lone : ∀ other ∈ (graph.insertAfter plan [.toNode plan.node.id] fresh).nodes,
      other.key ≠ plan.node.id.identity → other.LeadsTo plan.node.id.identity →
        other = anchor.withRouting [.toNode plan.node.id] := by
    intro other member differ leads
    rcases (mem_nodes_insertAfter _ fresh (hasNode_of_node? found)).mp member with
      rfl | ⟨old, isOld, rfl⟩
    · exact absurd rfl differ
    · split at leads
      · rename_i here
        rw [if_pos here, eq_of_key_eq isOld isAnchor ((Scalar.same_iff.mp here).trans sameKey.symm)]
      · exact absurd leads (unrouted.not_leadsTo isOld)
  exact length_predecessors_le_one lone

theorem nodes_spliceOut_insertAfter (takes : plan.node.routing = anchor.routing)
    (onward : ∃ route ∈ anchor.routing, route.isTerminal = false) :
    ((graph.insertAfter plan [.toNode plan.node.id] fresh).spliceOut plan.node.id
      plan.node.routing).nodes = graph.nodes := by
  obtain ⟨isAnchor, sameKey⟩ := node?_eq_some_iff.mp found
  rw [insertAfter, nodes_spliceOut_insertNode]
  change (graph.nodes.map _).map _ = _
  rw [List.map_map]
  refine (List.map_congr_left fun node member => ?_).trans (List.map_id' _)
  simp only [Function.comp_apply]
  split
  · -- the anchor gets back the routes that the new node had taken over
    rename_i here
    obtain rfl : node = anchor :=
      eq_of_key_eq member isAnchor ((Scalar.same_iff.mp here).trans sameKey.symm)
    have inherited := replacement_eq_self (unrouted node member) onward
    simp [takes, inherited, spliceRoutes, Node.withRouting, Route.leadsTo, Route.toNode]
  · rw [spliceRoutes_eq_self (unrouted node member)]
    rfl

theorem delete_insertAfter (takes : plan.node.routing = anchor.routing)
    (onward : ∃ route ∈ anchor.routing, route.isTerminal = false)
    (unentered : graph.IsUnentered plan.node.id) (equal : plan.node.id.isNaN = false) :
    (graph.insertAfter plan [.toNode plan.node.id] fresh).delete plan.node.id .splice fanIn =
      .ok graph := by
  have isNew := (mem_nodes_insertAfter [.toNode plan.node.id] fresh
    (hasNode_of_node? found)).mpr (.inl rfl)
  have few := length_predecessors_insertAfter fresh found unrouted
  refine delete_eq_ok_iff.mpr ⟨plan.node, node?_id isNew, .inr
    ⟨equal, .inl few, Graph.ext rfl ?_ ?_⟩⟩
  · have still : ((graph.insertAfter plan [.toNode plan.node.id] fresh).repair plan.node.id
        plan.node.routing .splice).IsUnentered plan.node.id := unentered
    exact (entrypoints_remove_eq_self still).symm
  · exact (nodes_spliceOut_insertAfter fresh found unrouted takes onward).symm

end After

section Before

variable {first : Node} (fresh : plan.node.key ∉ graph.keys)
  (isFirst : graph.nodes.head? = some first) (sameKey : first.key = plan.anchor.identity)
  (unrouted : graph.IsUnrouted plan.node.id)

include unrouted

theorem nodes_spliceOut_insertBefore (routing : List Route) :
    ((graph.insertBefore plan fresh).spliceOut plan.node.id routing).nodes = graph.nodes := by
  have isFresh : (plan.node.withRouting [.toNode plan.anchor]).key ∉ graph.keys := fresh
  refine (nodes_spliceOut_insertNode isFresh routing).trans ?_
  refine (List.map_congr_left fun node member => ?_).trans (List.map_id' _)
  rw [Node.withRouting_id, spliceRoutes_eq_self (unrouted node member)]
  rfl

include isFirst sameKey

/-- The first node takes back the entrypoints that a node in front of it had taken. -/
theorem entrypoints_spliceOut_insertBefore (unentered : graph.IsUnentered plan.node.id)
    (texts : graph.HasTextIds) (targets : graph.HasTextTargets) (routing : List Route) :
    ((graph.insertBefore plan fresh).spliceOut plan.node.id routing).entrypoints =
      graph.entrypoints := by
  have fallback : ((graph.insertBefore plan fresh).spliceOut plan.node.id
      routing).ids.head?.getD nowhere = first.id := by
    rw [ids, nodes_spliceOut_insertBefore fresh unrouted, List.head?_map, isFirst]
    rfl
  rw [entrypoints_remove]
  change (graph.entrypoints.map _).map _ = _
  rw [List.map_map]
  refine (List.map_congr_left fun entry member => ?_).trans (List.map_id' _)
  simp only [Function.comp_apply]
  by_cases atAnchor : entry.2.denotes plan.anchor = true
  · obtain ⟨target, isTarget⟩ := targets entry member
    obtain ⟨name, isName⟩ := texts first (List.mem_of_head? isFirst)
    have same : first.id.same (.str target) = true := by
      rw [isTarget] at atAnchor
      exact Scalar.same_iff.mpr (sameKey.trans (Scalar.same_iff.mp atAnchor).symm)
    have toNew : (Value.scalar plan.node.id).denotes plan.node.id = true := Scalar.same_refl _
    rw [if_pos atAnchor, if_pos toNew]
    refine Prod.ext rfl ?_
    change Value.scalar _ = entry.2
    rw [fallback, isTarget, (Scalar.same_str _ _).mp same]
  · rw [if_neg atAnchor, if_neg (by simp [unentered entry member])]

theorem delete_insertBefore (unentered : graph.IsUnentered plan.node.id)
    (texts : graph.HasTextIds) (targets : graph.HasTextTargets)
    (equal : plan.node.id.isNaN = false) :
    (graph.insertBefore plan fresh).delete plan.node.id .splice fanIn = .ok graph := by
  have known : graph.hasNode plan.anchor = true :=
    hasNode_iff_exists.mpr ⟨first, List.mem_of_head? isFirst, sameKey⟩
  have isNew := (mem_nodes_insertBefore fresh known).mpr (.inl rfl)
  have alone : ∀ other ∈ (graph.insertBefore plan fresh).nodes,
      other.key ≠ plan.node.id.identity → other.LeadsTo plan.node.id.identity →
        other = plan.node := by
    intro other member differ leads
    rcases (mem_nodes_insertBefore fresh known).mp member with rfl | isOld
    · exact absurd rfl differ
    · exact absurd leads (unrouted.not_leadsTo isOld)
  refine delete_eq_ok_iff.mpr ⟨_, node?_eq_some_iff.mpr ⟨isNew, rfl⟩, .inr
    ⟨equal, .inl (length_predecessors_le_one alone), Graph.ext rfl ?_ ?_⟩⟩
  · exact (entrypoints_spliceOut_insertBefore fresh isFirst sameKey unrouted unentered texts
      targets _).symm
  · exact (nodes_spliceOut_insertBefore fresh unrouted _).symm

end Before

/-- The routes that come back are those of an anchor that leads on, or the entry that comes back
is the first node. -/
def CanTakeBack (graph : Graph) (plan : Plan) : Prop :=
  if plan.precedesEntry then
    ∃ first, graph.nodes.head? = some first ∧ first.key = plan.anchor.identity
  else
    ∃ anchor, graph.node? plan.anchor = some anchor ∧
      ∃ route ∈ anchor.routing, route.isTerminal = false

/-- Splicing a new node out again takes its insertion back. -/
theorem delete_apply (texts : graph.HasTextIds) (targets : graph.HasTextTargets)
    (nonempty : graph.nodes ≠ []) (takes : request.TakesOver)
    (made : Plan.make graph request catalog = .ok plan)
    (unrouted : graph.IsUnrouted plan.node.id) (unentered : graph.IsUnentered plan.node.id)
    (applied : graph.apply plan = .ok result) (possible : graph.CanTakeBack plan) :
    result.delete plan.node.id .splice fanIn = .ok graph := by
  obtain ⟨⟨name, isText⟩, -⟩ := Plan.node_of_make made
  have idEqual : plan.node.id.isNaN = false := by rw [isText]; rfl
  obtain ⟨fresh, inserted⟩ := apply_eq_ok_iff.mp applied
  unfold CanTakeBack at possible
  cases inserted with
  | first empty => exact absurd empty nonempty
  | nowhere known isNaN =>
    rw [texts.isNaN_eq_false known] at isNaN
    contradiction
  | before _ known _ precedes =>
    rw [if_pos precedes] at possible
    obtain ⟨first, isFirst, sameKey⟩ := possible
    exact delete_insertBefore fresh isFirst sameKey unrouted unentered texts targets idEqual
  | after _ known _ precedes =>
    rw [precedes, if_neg Bool.false_ne_true] at possible
    obtain ⟨anchor, found, onward⟩ := possible
    have taken := routing_of_takesOver takes made found
    exact delete_insertAfter fresh found unrouted taken onward unentered idEqual

/-- The pause in front of the entry. -/
def headPause : Request :=
  { pause with after := none }

def headPausePlan : Plan where
  anchor := "first"
  node := ⟨.str "pause", .template "wait", [.toNode "relay", .toNode "second"], []⟩
  priorRouting := [.toNode "relay", .toNode "second"]
  precedesEntry := true
  allowCycles := true

theorem delete_apply_pause :
    relay.HasTextIds ∧ relay.HasTextTargets ∧ relay.nodes ≠ [] ∧ relay.IsUnrouted "pause" ∧
      relay.IsUnentered "pause" ∧
      (pause.TakesOver ∧ Plan.make relay pause none = .ok pausePlan ∧ relay.CanTakeBack pausePlan ∧
        ∃ result, relay.apply pausePlan = .ok result ∧
          result.delete "pause" .splice .refuse = .ok relay) ∧
      headPause.TakesOver ∧ Plan.make relay headPause none = .ok headPausePlan ∧
        relay.CanTakeBack headPausePlan ∧ ∃ result, relay.apply headPausePlan = .ok result ∧
          result.delete "pause" .splice .refuse = .ok relay := by
  have targets : relay.HasTextTargets := by simp [HasTextTargets, relay]
  have nonempty : relay.nodes ≠ [] := by decide
  have unrouted : relay.IsUnrouted "pause" := by decide
  have unentered : relay.IsUnentered "pause" := by decide
  have behind : relay.CanTakeBack pausePlan := ⟨_, rfl, .toNode "relay", by decide, rfl⟩
  have before : relay.CanTakeBack headPausePlan := ⟨_, rfl, rfl⟩
  have takesOver : headPause.TakesOver := takesOver_pause
  have opened : Plan.make relay headPause none = .ok headPausePlan := by decide +kernel
  have applied : relay.apply pausePlan = .ok _ := rfl
  have appliedFirst : relay.apply headPausePlan = .ok _ := rfl
  exact ⟨hasTextIds_relay, targets, nonempty, unrouted, unentered,
    ⟨takesOver_pause, make_pause, behind, _, applied, delete_apply hasTextIds_relay targets nonempty
      takesOver_pause make_pause unrouted unentered applied behind⟩,
    takesOver, opened, before, _, appliedFirst, delete_apply hasTextIds_relay targets nonempty
      takesOver opened unrouted unentered appliedFirst before⟩

end Graph

end StepFlow
