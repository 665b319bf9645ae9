import StepFlow.Proofs.Edit.Deletion
import StepFlow.Proofs.Edit.Insertion

/-! Inserting a node that takes over the routes of its anchor. Main statement: the flow goes
where it went before, from every node and from every entrypoint, whether the node comes
behind its anchor or in front of it. -/
namespace StepFlow

open Outcome Relation

/-- The new node is to take over the anchor's routes, and is to have no others. -/
def Request.TakesOver (request : Request) : Prop :=
  ∃ draft route, Draft.ofValue? request.node = .ok draft ∧ draft.routing = [route] ∧
    route.isPlaceholder = true

namespace Graph

variable {graph result : Graph} {request : Request} {catalog : Option Catalog} {plan : Plan}
  {name : Scalar} {key : Identity}

theorem routing_of_takesOver {anchor : Node} (takes : request.TakesOver)
    (made : Plan.make graph request catalog = .ok plan)
    (found : graph.node? plan.anchor = some anchor) : plan.node.routing = anchor.routing := by
  obtain ⟨draft, route, drafted, lone, isPlaceholder⟩ := takes
  obtain ⟨described, parts⟩ := Plan.exists_isMadeOf made
  obtain rfl : described = draft := Except.ok.inj (parts.drafted.symm.trans drafted)
  have spelled := (expandRoutes_eq_ok_iff.mp parts.expanded).1
  rw [spelled, lone]
  simp [expandRoute, isPlaceholder, Plan.anchorRoutes, Plan.place, found]

section Before

variable (fresh : plan.node.key ∉ graph.keys) (known : graph.hasNode plan.anchor = true)

include known

/-- The one edge of a node in front of its anchor leads there. -/
theorem follows_new_insertBefore (differ : key ≠ plan.node.key) :
    (graph.insertBefore plan fresh).Follows (.scalar plan.node.id) key ↔
      (graph.insertBefore plan fresh).Follows (.scalar plan.anchor) key := by
  have isNew := (mem_nodes_insertBefore fresh known).mpr (.inl rfl)
  simp only [follows_scalar]
  constructor
  · intro path
    rcases path.cases_head with same | ⟨next, edge, rest⟩
    · exact absurd same.symm differ
    · rwa [← Node.leadsTo_toNode.mp ((edge_iff_of_key isNew rfl).mp edge).2]
  · refine .head ((edge_iff_of_key isNew rfl).mpr ⟨?_, Node.leadsTo_toNode.mpr rfl⟩)
    exact (mem_keys_insertBefore fresh known).mpr (.inr (hasNode_iff.mp known))

theorem enters_insertBefore_iff (unrouted : graph.IsUnrouted plan.node.id)
    (elsewhere : ∀ target, graph.target? name = some target → target.denotes plan.node.id = false)
    (differ : key ≠ plan.node.key) :
    graph.Enters name key ↔ (graph.insertBefore plan fresh).Enters name key := by
  have kept {id : Scalar} (away : id.identity ≠ plan.node.key) :
      graph.Follows (.scalar id) key ↔
        (graph.insertBefore plan fresh).Follows (.scalar id) key := by
    rw [follows_scalar, follows_scalar, edge_insertBefore fresh known unrouted]
    exact Bypass.reflTransGen_iff away differ
  have anchorAway : plan.anchor.identity ≠ plan.node.key :=
    fun same => fresh (same ▸ hasNode_iff.mp known)
  refine Iff.trans ?_ enters_retarget_iff.symm
  refine exists_congr fun target => and_congr_right fun found => ?_
  have away := elsewhere target found
  by_cases atAnchor : target.denotes plan.anchor = true
  · obtain ⟨id, rfl, same⟩ := Value.denotes_iff.mp atAnchor
    rw [if_pos atAnchor]
    refine Iff.trans ?_ (follows_new_insertBefore fresh known differ).symm
    rw [← kept anchorAway, follows_scalar, follows_scalar, same]
  · rw [if_neg atAnchor]
    cases target with
    | scalar id =>
      refine kept fun same => ?_
      simp [Value.denotes, Scalar.same, same, Node.key] at away
    | _ => simp [Follows]

end Before

theorem enters_insertAfter_iff {anchor : Node} (fresh : plan.node.key ∉ graph.keys)
    (found : graph.node? plan.anchor = some anchor) (takes : plan.node.routing = anchor.routing)
    (unrouted : graph.IsUnrouted plan.node.id)
    (elsewhere : ∀ target, graph.target? name = some target → target.denotes plan.node.id = false)
    (differ : key ≠ plan.node.key) :
    graph.Enters name key ↔
      (graph.insertAfter plan [.toNode plan.node.id] fresh).Enters name key := by
  refine exists_congr fun target => and_congr_right fun isTarget => ?_
  have away := elsewhere target isTarget
  cases target with
  | scalar id =>
    rw [follows_scalar, follows_scalar, edge_insertAfter fresh found takes unrouted]
    refine Bypass.reflTransGen_iff (fun same => ?_) differ
    simp [Value.denotes, Scalar.same, same, Node.key] at away
  | _ => simp [Follows]

/-- Taking over the routes of the anchor, or leading to it, a new node changes neither what the
nodes of the graph reach from one another nor what they are entered by. -/
theorem flow_insert_iff (nonempty : graph.nodes ≠ []) (takes : request.TakesOver)
    (made : Plan.make graph request catalog = .ok plan)
    (unrouted : graph.IsUnrouted plan.node.id) (applied : graph.apply plan = .ok result) :
    (∀ a ∈ graph.keys, ∀ b ∈ graph.keys, graph.Reaches a b ↔ result.Reaches a b) ∧
      ∀ name, (∀ target, graph.target? name = some target →
          target.denotes plan.node.id = false) →
        ∀ key ∈ graph.keys, graph.Enters name key ↔ result.Enters name key := by
  obtain ⟨fresh, inserted⟩ := apply_eq_ok_iff.mp applied
  have other {key : Identity} (member : key ∈ graph.keys) : key ≠ plan.node.key :=
    fun same => fresh (same ▸ member)
  cases inserted with
  | first empty => exact absurd empty nonempty
  | nowhere => exact ⟨fun _ _ _ _ => .rfl, fun _ _ _ _ => .rfl⟩
  | before _ known =>
    refine ⟨fun a source b target => ?_, fun name elsewhere key member =>
      enters_insertBefore_iff fresh known unrouted elsewhere (other member)⟩
    unfold Reaches
    rw [edge_insertBefore fresh known unrouted]
    exact Bypass.transGen_iff (other source) (other target)
  | after _ known =>
    obtain ⟨anchor, isAnchor, same⟩ := hasNode_iff_exists.mp known
    have found := node?_eq_some_iff.mpr ⟨isAnchor, same⟩
    have taken := routing_of_takesOver takes made found
    refine ⟨fun a source b target => ?_, fun name elsewhere key member =>
      enters_insertAfter_iff fresh found taken unrouted elsewhere (other member)⟩
    unfold Reaches
    rw [edge_insertAfter fresh found taken unrouted]
    exact Bypass.transGen_iff (other source) (other target)

/-- A pause behind the node that leads back to itself. -/
def pause : Request where
  after := some "relay"
  hint := some "pause"
  node := .map [(.str "template", .str "wait"),
    (.str "routing", .list [.map [(.str "to", .str placeholderTarget)]])]
  allowCycles := true
  requirePlaceholder := true

def pausePlan : Plan where
  anchor := "relay"
  node := ⟨.str "pause", .template "wait", [.toNode "relay", .answer, .toNode "first"], []⟩
  priorRouting := [.toNode "relay", .answer, .toNode "first"]
  precedesEntry := false
  allowCycles := true

theorem takesOver_pause : pause.TakesOver := by
  refine ⟨⟨"template", none, none, .str "wait", [.placeholder]⟩, .placeholder, ?_, rfl, rfl⟩
  decide +kernel

theorem make_pause : Plan.make relay pause none = .ok pausePlan := by
  decide +kernel

theorem flow_insert_pause :
    relay.nodes ≠ [] ∧ pause.TakesOver ∧ Plan.make relay pause none = .ok pausePlan ∧
      relay.IsUnrouted "pause" ∧ ∃ result, relay.apply pausePlan = .ok result ∧
        (relay.Reaches (.str "relay") (.str "relay") ↔
          result.Reaches (.str "relay") (.str "relay")) ∧
        (relay.Enters "default" (.str "second") ↔ result.Enters "default" (.str "second")) := by
  have nonempty : relay.nodes ≠ [] := by decide
  have unrouted : relay.IsUnrouted "pause" := by decide
  have applied : relay.apply pausePlan = .ok _ := rfl
  have kept := flow_insert_iff nonempty takesOver_pause make_pause unrouted applied
  refine ⟨nonempty, takesOver_pause, make_pause, unrouted, _, applied,
    kept.1 _ (by decide) _ (by decide), kept.2 "default" ?_ _ (by decide)⟩
  rintro target ⟨⟩
  rfl

end Graph

end StepFlow
