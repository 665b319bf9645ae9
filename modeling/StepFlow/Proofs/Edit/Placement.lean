import StepFlow.Proofs.Edit.Undo

/-! What applying a plan changes, wherever the plan comes from. Main statement: a plan is refused
for the first thing that stands in its way, and otherwise the graph gains its node next to the
anchor and stays as it was but for the anchor's routes or the entrypoints that led to it. -/
namespace StepFlow

open Outcome

theorem exists_insertBeside {anchor : Scalar} {nodes : List Node} (before : Bool) (new : Node)
    (found : ∃ old ∈ nodes, old.id.same anchor = true) :
    ∃ first old rest, nodes = first ++ old :: rest ∧ old.id.same anchor = true ∧
      insertBeside before anchor new nodes =
        first ++ (if before then [new, old] else [old, new]) ++ rest := by
  induction nodes with
  | nil => simp at found
  | cons node nodes ih =>
    by_cases here : node.id.same anchor = true
    · refine ⟨[], node, nodes, rfl, here, ?_⟩
      cases before <;> simp [insertBeside, here]
    · have later : ∃ old ∈ nodes, old.id.same anchor = true := by simpa [here] using found
      obtain ⟨first, old, rest, split, isAnchor, placed⟩ := ih later
      refine ⟨node :: first, old, rest, by rw [split, List.cons_append], isAnchor, ?_⟩
      rw [insertBeside, if_neg here, placed, List.cons_append, List.cons_append]

namespace Graph

/-- What stands in the way of a plan. Each obstacle is met only where the ones before are not. -/
inductive Obstacle (graph : Graph) (plan : Plan) : FlowFault → Prop where
  | taken : graph.hasNode plan.node.id = true → Obstacle graph plan (.nodeExists plan.node.id)
  | unanchored : graph.hasNode plan.node.id = false → graph.nodes ≠ [] →
      graph.hasNode plan.anchor = false → Obstacle graph plan (.anchorNotFound plan.anchor)
  | looped : graph.hasNode plan.node.id = false → graph.nodes ≠ [] →
      graph.hasNode plan.anchor = true → plan.precedesEntry = false → plan.allowCycles = false →
      (∃ route ∈ plan.priorRouting, route.leadsTo plan.anchor = true) →
      Obstacle graph plan (.routing (.anchorCycle plan.anchor) (.node plan.anchor))

/-- The graph with the node of a plan. A graph without nodes has no anchor, and every entrypoint
leads to its first node. -/
structure Gains (graph : Graph) (plan : Plan) (result : Graph) : Prop where
  header : result.header = graph.header
  order : result.ids.filter (fun id => !id.same plan.node.id) = graph.ids
  place : graph.nodes ≠ [] → ∃ first anchor rest, anchor.same plan.anchor = true ∧ result.ids =
    first ++ (if plan.precedesEntry then [plan.node.id, anchor] else [anchor, plan.node.id]) ++ rest
  new : result.node? plan.node.id = some (if !graph.isEmpty && plan.precedesEntry then
    plan.node.withRouting [.toNode plan.anchor] else plan.node)
  old : ∀ node ∈ graph.nodes, result.node? node.id =
    some (if !plan.precedesEntry && node.id.same plan.anchor then
      node.withRouting [.toNode plan.node.id] else node)
  entrypoints : result.entrypoints = if graph.isEmpty && graph.entrypoints.isEmpty then
      [(.str defaultEntrypoint, .scalar plan.node.id)]
    else graph.entrypoints.map fun entry => (entry.1,
      if graph.isEmpty || plan.precedesEntry && entry.2.denotes plan.anchor then
        .scalar plan.node.id else entry.2)

variable {graph result : Graph} {plan : Plan} {before : Bool} {anchor : Scalar} {new : Node}

/-! ### Obstacles -/

theorem hasNode_eq_false_iff {id : Scalar} : graph.hasNode id = false ↔ id.identity ∉ graph.keys := by
  rw [← hasNode_iff, Bool.not_eq_true]

theorem Obstacle.of_apply {fault : FlowFault} (failed : graph.apply plan = .error fault) :
    graph.Obstacle plan fault := by
  unfold apply at failed
  split at failed
  · rename_i known
    cases failed
    exact .taken (hasNode_iff.mpr known)
  rename_i fresh
  have fresh := hasNode_eq_false_iff.mpr fresh
  split at failed
  · contradiction
  rename_i nonempty
  have nonempty : graph.nodes ≠ [] := fun empty => nonempty (List.isEmpty_iff.mpr empty)
  split at failed
  · rename_i unknown
    cases failed
    exact .unanchored fresh nonempty (by simpa using unknown)
  rename_i known
  simp only [Bool.not_eq_true', Bool.not_eq_false] at known
  split at failed
  · contradiction
  split at failed
  · contradiction
  rename_i behind
  unfold threadAnchor at failed
  split at failed
  · rename_i closes
    cases failed
    obtain ⟨refused, leads⟩ := any_closesCycle_iff.mp closes
    exact .looped fresh nonempty known (Bool.eq_false_iff.mpr behind) refused leads
  · cases failed

theorem Obstacle.apply {fault : FlowFault} (equal : plan.anchor.isNaN = false)
    (obstacle : graph.Obstacle plan fault) : graph.apply plan = .error fault := by
  unfold Graph.apply
  cases obstacle with
  | taken known => exact dif_pos (hasNode_iff.mp known)
  | unanchored fresh nonempty unknown =>
    have notEmpty : graph.isEmpty = false := List.isEmpty_eq_false_iff.mpr nonempty
    simp [hasNode_eq_false_iff.mp fresh, Node.key, notEmpty, unknown]
  | looped fresh nonempty known behind refused leads =>
    have closes := any_closesCycle_iff.mpr ⟨refused, leads⟩
    have notEmpty : graph.isEmpty = false := List.isEmpty_eq_false_iff.mpr nonempty
    simp only [Node.key, hasNode_eq_false_iff.mp fresh, dite_false, notEmpty, known, equal, behind,
      Bool.not_true, Bool.false_eq_true, if_false, threadAnchor, closes, if_true]
    rfl

/-! ### The place -/

theorem ids_insertNode (fresh : new.key ∉ graph.keys) (known : graph.hasNode anchor = true) :
    ∃ first old rest, old.same anchor = true ∧ (graph.insertNode before anchor new fresh).ids =
      first ++ (if before then [new.id, old] else [old, new.id]) ++ rest := by
  obtain ⟨first, old, rest, -, isAnchor, placed⟩ :=
    exists_insertBeside before new (List.any_eq_true.mp known)
  refine ⟨first.map Node.id, old.id, rest.map Node.id, isAnchor, ?_⟩
  change (insertBeside before anchor new graph.nodes).map Node.id = _
  rw [placed]
  cases before <;> simp

theorem filter_ids_insertNode (fresh : new.key ∉ graph.keys) :
    (graph.insertNode before anchor new fresh).ids.filter (fun id => !id.same new.id) = graph.ids := by
  rw [ids, List.filter_map]
  change ((insertBeside before anchor new graph.nodes).filter fun node => !node.id.same new.id).map _ = _
  rw [filter_insertBeside (Scalar.same_refl _), filter_nodes_of_fresh fresh, ids]

/-! ### Results -/

theorem gains_startWith (empty : graph.nodes = []) : graph.Gains plan (graph.startWith plan.node) where
  header := rfl
  order := by simp [startWith, ids, empty]
  place nonempty := absurd empty nonempty
  new := by
    have isEmpty : graph.isEmpty = true := List.isEmpty_iff.mpr empty
    rw [isEmpty, Bool.not_true, Bool.false_and, if_neg Bool.false_ne_true]
    exact node?_id (.head _)
  old node member := by
    rw [empty] at member
    contradiction
  entrypoints := by simp [startWith, isEmpty, empty]

theorem gains_insertBefore (fresh : plan.node.key ∉ graph.keys)
    (known : graph.hasNode plan.anchor = true) (front : plan.precedesEntry = true) :
    graph.Gains plan (graph.insertBefore plan fresh) where
  header := rfl
  order := filter_ids_insertNode (show (plan.node.withRouting [.toNode plan.anchor]).key ∉ _ from fresh)
  place _ := by
    rw [front]
    exact ids_insertNode (show (plan.node.withRouting [.toNode plan.anchor]).key ∉ _ from fresh) known
  new := by
    rw [isEmpty_eq_false known, front, Bool.not_false, Bool.and_self, if_pos rfl]
    exact node?_eq_some_iff.mpr ⟨(mem_nodes_insertBefore fresh known).mpr (.inl rfl), rfl⟩
  old node member := by
    rw [front, Bool.not_true, Bool.false_and, if_neg Bool.false_ne_true]
    exact node?_id ((mem_nodes_insertBefore fresh known).mpr (.inr member))
  entrypoints := by
    rw [isEmpty_eq_false known, front]
    rfl

theorem gains_insertAfter (fresh : plan.node.key ∉ graph.keys)
    (known : graph.hasNode plan.anchor = true) (behind : plan.precedesEntry = false) :
    graph.Gains plan (graph.insertAfter plan [.toNode plan.node.id] fresh) where
  header := rfl
  order := (filter_ids_insertNode _).trans ids_mapNodes
  place _ := by
    rw [behind]
    exact ids_insertNode _ (hasNode_reroute.trans known)
  new := by
    rw [behind, Bool.and_false, if_neg Bool.false_ne_true]
    exact node?_id ((mem_nodes_insertAfter _ fresh known).mpr (.inl rfl))
  old node member := by
    rw [behind, Bool.not_false, Bool.true_and]
    refine node?_eq_some_iff.mpr ⟨(mem_nodes_insertAfter _ fresh known).mpr (.inr ⟨node, member, rfl⟩), ?_⟩
    split <;> rfl
  entrypoints := by
    rw [isEmpty_eq_false known, behind]
    exact (List.map_id' _).symm

theorem Gains.of_inserted (equal : plan.anchor.isNaN = false) (inserted : Inserted graph plan result) :
    graph.Gains plan result := by
  cases inserted with
  | first empty => exact gains_startWith empty
  | nowhere _ isNaN => simp [equal] at isNaN
  | before fresh known _ front => exact gains_insertBefore fresh known front
  | after fresh known _ behind => exact gains_insertAfter fresh known behind

theorem Obstacle.ofFault {fault : FlowFault} {anchor id : String} (anchored : plan.anchor = .str anchor)
    (named : plan.node.id = .str id) (obstacle : graph.Obstacle plan fault) :
    Failure.ofFault fault = .flow fault := by
  refine if_pos ?_
  cases obstacle with
  | taken => rw [named]; rfl
  | unanchored => rw [anchored]; rfl
  | looped => rw [anchored]; rfl

/-- A plan fails with what stands in its way, and else puts its node next to the anchor. -/
theorem apply_outcome {anchor id : String} (anchored : plan.anchor = .str anchor)
    (named : plan.node.id = .str id) :
    (∀ failure, (graph.apply plan).mapError Failure.ofFault = .error failure ↔
      ∃ fault, graph.Obstacle plan fault ∧ failure = .flow fault) ∧
    ((∀ fault, ¬ graph.Obstacle plan fault) →
      ∃ result, graph.apply plan = .ok result ∧ graph.Gains plan result) := by
  have equal : plan.anchor.isNaN = false := by rw [anchored]; rfl
  refine ⟨fun failure => ?_, fun free => ?_⟩
  · rw [mapError_eq_error]
    refine exists_congr fun fault => ⟨fun ⟨failed, shown⟩ => ?_, fun ⟨obstacle, isFlow⟩ => ?_⟩
    · have obstacle := Obstacle.of_apply failed
      exact ⟨obstacle, shown.symm.trans (obstacle.ofFault anchored named)⟩
    · exact ⟨obstacle.apply equal, (obstacle.ofFault anchored named).trans isFlow.symm⟩
  · cases applied : graph.apply plan with
    | error fault => exact absurd (.of_apply applied) (free fault)
    | ok result => exact ⟨result, rfl, .of_inserted equal (apply_eq_ok_iff.mp applied).2⟩

/-- A pause behind a step that has gone since it was planned. -/
def strandedPlan : Plan :=
  { pausePlan with anchor := "gone" }

theorem apply_outcome_pause :
    (∀ fault, ¬ relay.Obstacle pausePlan fault) ∧
    (∃ result, relay.apply pausePlan = .ok result ∧ relay.Gains pausePlan result) ∧
    (relay.apply strandedPlan).mapError Failure.ofFault = .error (.flow (.anchorNotFound "gone")) := by
  have free : ∀ fault, ¬ relay.Obstacle pausePlan fault := by
    rintro fault (known | ⟨-, -, unknown⟩ | ⟨-, -, -, -, refused, -⟩)
    · exact absurd known (by decide)
    · exact absurd unknown (by decide)
    · exact absurd refused (by decide)
  have stranded : relay.Obstacle strandedPlan (.anchorNotFound "gone") :=
    .unanchored (by decide) (by decide) (by decide)
  exact ⟨free, (apply_outcome rfl rfl).2 free, ((apply_outcome rfl rfl).1 _).mpr ⟨_, stranded, rfl⟩⟩

end Graph

end StepFlow
