import StepFlow.Edit.Update
import StepFlow.Proofs.Document.Rereading
import StepFlow.Proofs.Edit.Deletion
import StepFlow.Proofs.Edit.Insertion

/-! Closed graphs: no route and no entrypoint leads astray. Main statements: insertions and
changes that pass the check keep a graph closed, and so do deletions, which nothing checks. -/
namespace StepFlow

open Outcome

namespace Graph

/-- The route leads to a node, out of the flow, or nowhere. -/
def Admits (graph : Graph) (route : Route) : Prop :=
  ∀ target, route.target = some target → target = .str outTarget ∨ graph.hasNode target = true

/-- Every entrypoint leads to a node, if there are any. -/
def IsEnterable (graph : Graph) : Prop :=
  (∀ entry ∈ graph.entrypoints, graph.hasTarget entry.2 = true) ∨
    graph.nodes = [] ∧ ∀ entry ∈ graph.entrypoints, entry.2 = .str ""

/-- Every node is found under its id (which holds of all graphs, as their ids are distinct), and
no route and no entrypoint leads astray. -/
structure IsClosed (graph : Graph) : Prop where
  stored : ∀ node ∈ graph.nodes, graph.node? node.id = some node
  routes : ∀ node ∈ graph.nodes, ∀ route ∈ node.routing, graph.Admits route
  entrypoints : graph.IsEnterable

/-- A closed graph whose routes survive being written, so that what is read back tells them. -/
structure IsSound (graph : Graph) : Prop extends graph.IsClosed where
  keeps : ∀ node ∈ graph.nodes, node.KeepsRouting

variable {graph result reread : Graph} {catalog : Option Catalog} {plan : Plan} {id : Scalar}
  {route : Route} {node : Node} {value : Value}

theorem hasTarget_iff : graph.hasTarget value = true ↔
    ∃ id, value = .scalar id ∧ id.identity ∈ graph.keys := by
  cases value <;> simp [hasTarget, hasNode_iff]

/-! ### What the check tells -/

/-- The findings are reported if the entry can be looked up and all of them can be told. -/
theorem validate_eq_ok_iff {findings : List Diagnostic} : graph.validate catalog = .ok findings ↔
    (graph.entryFits = true ∧ graph.canTellEntry = true ∧
      ∀ node ∈ graph.nodes, graph.canTellNode catalog node = true) ∧
    graph.findings catalog = findings := by
  rw [← List.all_eq_true, ← Bool.and_eq_true]
  unfold validate requireWritable
  cases graph.entryFits with
  | false => simp [bind, Except.bind, throw, throwThe, MonadExceptOf.throw]
  | true =>
    simp only [Bool.not_true, Bool.false_eq_true, if_false, true_and]
    cases graph.canTellEntry && graph.nodes.all (graph.canTellNode catalog) with
    | false => simp [bind, Except.bind]
    | true => simp [bind, Except.bind, pure, Except.pure]

theorem findings_of_validate (valid : graph.validate catalog = .ok []) :
    graph.findings catalog = [] :=
  (validate_eq_ok_iff.mp valid).2

theorem checked_eq_ok [Installation] [Execution] {location : String}
    (passed : graph.checked catalog location = .ok result) :
    result = graph ∧ ∃ reread, graph.confirm = .ok reread ∧ reread.validate catalog = .ok [] := by
  simp only [checked, bind_eq_ok] at passed
  obtain ⟨reread, confirmed, findings, valid, passed⟩ := passed
  cases findings with
  | nil => exact ⟨(Except.ok.inj passed).symm, reread, confirmed, valid⟩
  | cons => cases passed

theorem routeFindings_eq_nil_iff : graph.routeFindings node route = [] ↔ graph.Admits route := by
  unfold routeFindings Admits
  cases route.target with
  | none => simp
  | some target => simp [or_iff_not_imp_left]

theorem nodeFindings_eq_nil_iff : graph.nodeFindings catalog node = [] ↔
    (∀ route ∈ node.routing, graph.Admits route) ∧ kindFindings catalog node = [] := by
  simp only [nodeFindings, List.append_eq_nil_iff, List.flatMap_eq_nil_iff, routeFindings_eq_nil_iff]

theorem findings_eq_nil_iff : graph.findings catalog = [] ↔
    graph.entryFindings = [] ∧ ∀ node ∈ graph.nodes, graph.nodeFindings catalog node = [] := by
  simp only [findings, List.append_eq_nil_iff, List.flatMap_eq_nil_iff]

theorem admits_of_findings (quiet : graph.findings catalog = []) :
    ∀ node ∈ graph.nodes, ∀ route ∈ node.routing, graph.Admits route := fun node member =>
  (nodeFindings_eq_nil_iff.mp ((findings_eq_nil_iff.mp quiet).2 node member)).1

theorem admits_of_outline (same : reread.outline = graph.outline)
    (admits : ∀ node ∈ reread.nodes, ∀ route ∈ node.routing, reread.Admits route) :
    ∀ node ∈ graph.nodes, ∀ route ∈ node.routing, graph.Admits route := by
  intro node member route isRoute target isTarget
  have entry : (node.id, node.routing) ∈ reread.outline := same ▸ List.mem_map_of_mem member
  obtain ⟨other, isOther, sameEntry⟩ := List.mem_map.mp entry
  obtain ⟨-, sameRouting⟩ := Prod.mk.inj sameEntry
  have kept := admits other isOther route (sameRouting ▸ isRoute) target isTarget
  rwa [hasNode_iff_outline, same, ← hasNode_iff_outline] at kept

/-- What passes the check has no route that leads astray. -/
theorem admits_of_checked [Installation] [Execution] {location : String}
    (keeps : ∀ node ∈ graph.nodes, node.KeepsRouting) (readBack : graph.IsReadBack)
    (passed : graph.checked catalog location = .ok result) :
    ∀ node ∈ graph.nodes, ∀ route ∈ node.routing, graph.Admits route := by
  obtain ⟨-, reread, confirmed, valid⟩ := checked_eq_ok passed
  have quiet := findings_of_validate valid
  exact admits_of_outline (outline_of_confirm keeps readBack confirmed) (admits_of_findings quiet)

/-! ### Insertions -/

/-- A graph with nodes is entered at nodes only. -/
theorem IsEnterable.hasTarget (enterable : graph.IsEnterable) (known : graph.hasNode id = true)
    {entry : Scalar × Value} (member : entry ∈ graph.entrypoints) :
    graph.hasTarget entry.2 = true := by
  obtain ⟨node, isNode, -⟩ := hasNode_iff_exists.mp known
  rcases enterable with leads | ⟨empty, -⟩
  · exact leads entry member
  · rw [empty] at isNode
    contradiction

/-- What led to the anchor leads to the node in front of it. -/
theorem hasTarget_insertBefore (fresh : plan.node.key ∉ graph.keys)
    (known : graph.hasNode plan.anchor = true) (leads : graph.hasTarget value = true) :
    (graph.insertBefore plan fresh).hasTarget
      (if value.denotes plan.anchor then .scalar plan.node.id else value) = true := by
  obtain ⟨target, isTarget, isKey⟩ := hasTarget_iff.mp leads
  rw [hasTarget_iff]
  simp only [mem_keys_insertBefore fresh known]
  split
  · exact ⟨plan.node.id, rfl, .inl rfl⟩
  · exact ⟨target, isTarget, .inr isKey⟩

theorem hasTarget_insertAfter {threaded : List Route} (fresh : plan.node.key ∉ graph.keys)
    (known : graph.hasNode plan.anchor = true) (leads : graph.hasTarget value = true) :
    (graph.insertAfter plan threaded fresh).hasTarget value = true := by
  obtain ⟨target, isTarget, isKey⟩ := hasTarget_iff.mp leads
  exact hasTarget_iff.mpr ⟨target, isTarget, (mem_keys_insertAfter _ fresh known).mpr (.inr isKey)⟩

theorem IsEnterable.of_inserted (enterable : graph.IsEnterable)
    (inserted : Inserted graph plan result) : result.IsEnterable := by
  cases inserted with
  | first =>
    left
    intro entry member
    exact hasTarget_iff.mpr ⟨plan.node.id, target_startWith member, .head _⟩
  | nowhere => exact enterable
  | before fresh known =>
    left
    intro entry member
    obtain ⟨old, isOld, rfl⟩ := List.mem_map.mp member
    exact hasTarget_insertBefore fresh known (enterable.hasTarget known isOld)
  | after fresh known =>
    left
    intro entry member
    exact hasTarget_insertAfter fresh known (enterable.hasTarget known member)

theorem keepsRouting_of_inserted (keeps : ∀ node ∈ graph.nodes, node.KeepsRouting)
    (plain : plan.node.extras = []) (inserted : Inserted graph plan result) :
    ∀ node ∈ result.nodes, node.KeepsRouting := by
  have keepsNew : plan.node.KeepsRouting := by rw [Node.KeepsRouting, plain, Keyed.get?_nil]
  intro node member
  cases inserted with
  | first => rwa [List.mem_singleton.mp member]
  | nowhere => exact keeps node member
  | before fresh known =>
    rcases (mem_nodes_insertBefore fresh known).mp member with rfl | isOld
    · exact keepsNew
    · exact keeps node isOld
  | after fresh known =>
    rcases (mem_nodes_insertAfter _ fresh known).mp member with rfl | ⟨old, isOld, rfl⟩
    · exact keepsNew
    · split <;> exact keeps old isOld

theorem IsSound.applyChecked [Installation] [Execution] {request : Request}
    {planning : Option Catalog} (sound : graph.IsSound) (made : Plan.make graph request planning = .ok plan)
    (applied : graph.applyChecked plan catalog = .ok result) (readBack : result.IsReadBack) :
    result.IsSound := by
  simp only [Graph.applyChecked, bind_eq_ok, mapError_eq_ok] at applied
  obtain ⟨candidate, applied, passed⟩ := applied
  obtain rfl := (checked_eq_ok passed).1
  obtain ⟨-, inserted⟩ := apply_eq_ok_iff.mp applied
  have keeps := keepsRouting_of_inserted sound.keeps (Plan.node_of_make made).2 inserted
  exact ⟨⟨fun _ => node?_id, admits_of_checked keeps readBack passed,
    sound.entrypoints.of_inserted inserted⟩, keeps⟩

/-! ### Changes -/

theorem keys_revise {kind : Kind} {routing : List Route} :
    (graph.revise id kind routing).keys = graph.keys :=
  keys_mapNodes

theorem IsEnterable.revise {kind : Kind} {routing : List Route} (enterable : graph.IsEnterable) :
    (graph.revise id kind routing).IsEnterable := by
  refine enterable.imp (fun leads entry member => ?_) fun ⟨empty, nowhere⟩ => ⟨?_, nowhere⟩
  · rw [hasTarget_iff, keys_revise, ← hasTarget_iff]
    exact leads entry member
  · simp [Graph.revise, mapNodes, empty]

theorem update_eq_ok_iff {overrides : Overrides} : graph.update id overrides = .ok result ↔
    ∃ node kind routing, graph.node? id = some node ∧ node.kind.override id overrides = .ok kind ∧
      ((overrides.routing.map (RoutingOverride.resolve id)).getD (.ok node.routing)) = .ok routing ∧
      result = graph.revise id kind routing := by
  unfold update
  cases graph.node? id with
  | none => simp
  | some node =>
    simp only [bind_eq_ok, pure_eq_ok, mapError_eq_ok, Option.some.injEq]
    constructor
    · rintro ⟨kind, overridden, routing, resolved, rfl⟩
      exact ⟨node, kind, routing, rfl, overridden, resolved, rfl⟩
    · rintro ⟨_, kind, routing, rfl, overridden, resolved, rfl⟩
      exact ⟨kind, overridden, routing, resolved, rfl⟩

theorem IsSound.updateChecked [Installation] [Execution] {overrides : Overrides}
    (sound : graph.IsSound) (updated : graph.updateChecked id overrides catalog = .ok result)
    (readBack : result.IsReadBack) : result.IsSound := by
  simp only [Graph.updateChecked, bind_eq_ok] at updated
  obtain ⟨candidate, updated, passed⟩ := updated
  obtain rfl := (checked_eq_ok passed).1
  obtain ⟨_, kind, routing, -, -, -, rfl⟩ := update_eq_ok_iff.mp updated
  have keeps : ∀ node ∈ (graph.revise id kind routing).nodes, node.KeepsRouting := by
    intro node member
    obtain ⟨old, isOld, rfl⟩ := List.mem_map.mp member
    split <;> exact sound.keeps old isOld
  exact ⟨⟨fun _ => node?_id, admits_of_checked keeps readBack passed, sound.entrypoints.revise⟩,
    keeps⟩

/-! ### Deletions -/

/-- A route that does not lead to the deleted node leads where it led. -/
theorem Admits.spliceOut {routing : List Route} (admits : graph.Admits route)
    (away : route.leadsTo id = false) :
    (graph.spliceOut id routing).Admits route := by
  intro target isTarget
  refine (admits target isTarget).imp_right fun known => ?_
  rw [hasNode_iff, mem_keys_spliceOut]
  refine ⟨hasNode_iff.mp known, fun same => ?_⟩
  rw [Route.leadsTo_iff_identity.mpr (by rw [isTarget, Option.map_some, same])] at away
  contradiction

theorem admits_spliceOut {deleted : Node}
    (admits : ∀ node ∈ graph.nodes, ∀ route ∈ node.routing, graph.Admits route)
    (isDeleted : deleted ∈ graph.nodes) :
    ∀ node ∈ (graph.spliceOut id deleted.routing).nodes, ∀ route ∈ node.routing,
      (graph.spliceOut id deleted.routing).Admits route := by
  intro node member route isRoute
  obtain ⟨old, isOld, -, rfl⟩ := mem_nodes_spliceOut.mp member
  rcases mem_spliceRoutes.mp isRoute with ⟨own, away⟩ | ⟨placed, -⟩
  · exact (admits old isOld route own).spliceOut away
  · obtain ⟨inherited, away⟩ := mem_of_mem_replacement placed
    exact (admits deleted isDeleted route inherited).spliceOut away

/-- Entrypoints to the deleted node go to the first one that is left, or to no node once
there is none. -/
theorem IsEnterable.spliceOut {routing : List Route} (enterable : graph.IsEnterable)
    (known : graph.hasNode id = true) :
    (graph.spliceOut id routing).IsEnterable := by
  have stays {entry : Scalar × Value} (member : entry ∈ graph.entrypoints)
      (away : ¬entry.2.denotes id = true) :
      (graph.spliceOut id routing).hasTarget entry.2 = true := by
    obtain ⟨target, isTarget, isKey⟩ := hasTarget_iff.mp (enterable.hasTarget known member)
    exact hasTarget_iff.mpr ⟨target, isTarget, mem_keys_spliceOut.mpr
      ⟨isKey, fun same => away (Value.denotes_iff.mpr ⟨target, isTarget, same⟩)⟩⟩
  unfold IsEnterable
  rw [entrypoints_remove]
  cases nodes : (graph.spliceOut id routing).nodes with
  | nil =>
    refine .inr ⟨rfl, fun entry member => ?_⟩
    obtain ⟨old, isOld, rfl⟩ := List.mem_map.mp member
    by_cases here : old.2.denotes id = true
    · simp [here, ids, nodes, nowhere]
    · obtain ⟨target, -, isKey⟩ := hasTarget_iff.mp (stays isOld here)
      simp [keys, nodes] at isKey
  | cons first rest =>
    refine .inl fun entry member => ?_
    obtain ⟨old, isOld, rfl⟩ := List.mem_map.mp member
    by_cases here : old.2.denotes id = true
    · have isFirst : first ∈ (graph.spliceOut id routing).nodes := by simp [nodes]
      simpa [here, ids, nodes] using hasTarget_iff.mpr ⟨first.id, rfl, key_mem_keys isFirst⟩
    · simpa [here] using stays isOld here

theorem IsSound.delete {fanIn : FanIn} (sound : graph.IsSound)
    (deleted : graph.delete id .splice fanIn = .ok result) : result.IsSound := by
  obtain ⟨node, found, ⟨-, rfl⟩ | ⟨-, -, rfl⟩⟩ := delete_eq_ok_iff.mp deleted
  · exact sound
  have isDeleted := (node?_eq_some_iff.mp found).1
  have known := hasNode_of_node? found
  refine ⟨⟨fun _ => node?_id, admits_spliceOut sound.routes isDeleted,
    sound.entrypoints.spliceOut known⟩, fun node member => ?_⟩
  obtain ⟨old, isOld, -, rfl⟩ := mem_nodes_spliceOut.mp member
  exact sound.keeps old isOld

end Graph

end StepFlow
