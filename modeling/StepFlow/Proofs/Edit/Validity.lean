import StepFlow.Proofs.Edit.Applicability
import StepFlow.Proofs.Edit.Closure
import StepFlow.Proofs.Edit.Undo

/-! What an insertion does to a valid flow. Main statement: everything that is wrong afterwards is
wrong with the new node, and nothing is wrong if its routes lead somewhere and its kind has what
it needs. -/
namespace StepFlow

open Outcome

/-! ### New nodes -/

/-- What a node needs by its kind. -/
def Kind.IsComplete : Kind → Prop
  | component _ _ _ payload => payload.isNull = false
  | questions fields => Keyed.contains fields "fields" = true
  | template text => isBlankText text = false
  | other _ _ => False

instance : DecidablePred Kind.IsComplete
  | .component _ _ _ payload => inferInstanceAs (Decidable (payload.isNull = false))
  | .questions fields => inferInstanceAs (Decidable (Keyed.contains fields "fields" = true))
  | .template text => inferInstanceAs (Decidable (isBlankText text = false))
  | .other _ _ => inferInstanceAs (Decidable False)

/-- A draft with a valid key describes no unknown kind of node. -/
theorem Draft.kind_ne_other {draft : Draft} {kind : Kind} {key : String} {payload : Value}
    (valid : isValidComponentKey draft.component = true) (kinded : draft.kind = .ok kind) :
    kind ≠ .other key payload := by
  unfold Draft.kind at kinded
  split at kinded
  · split at kinded <;> cases kinded
    simp
  split at kinded
  · split at kinded <;> cases kinded
    simp
  · cases kinded
    simp

namespace Plan

variable {plan : Plan}

/-- The new node as it is placed. In front of an entry it leads to the anchor alone. -/
def placed (plan : Plan) : Node :=
  if plan.precedesEntry then plan.node.withRouting [.toNode plan.anchor] else plan.node

theorem placed_id : plan.placed.id = plan.node.id := by
  unfold placed
  split <;> rfl

theorem placed_kind : plan.placed.kind = plan.node.kind := by
  unfold placed
  split <;> rfl

end Plan

/-- The finding is about the node or one of its parts, and neither about an entrypoint nor about
what the catalog says. -/
structure Diagnostic.IsAt (finding : Diagnostic) (id : Scalar) : Prop where
  located : ∃ part ∈ ["", ".routing", ".questions.fields", ".template"],
    finding.location = some (s!"nodes.{id.text}" ++ part)
  code : finding.code ∉ [.componentNotFound, .configRequired, .entrypointMissing]

namespace Graph

variable {graph result : Graph} {catalog : Option Catalog} {plan : Plan} {node new : Node}
  {route : Route}

/-! ### Findings -/

/-- The first entrypoint, if there is one, leads to a node. -/
def LeadsIn (graph : Graph) : Prop :=
  ∀ entry, graph.entry? = some entry → graph.hasTarget entry.2 = true

theorem entryFindings_eq_nil_iff : graph.entryFindings = [] ↔ graph.LeadsIn := by
  unfold entryFindings LeadsIn
  cases graph.entry? with
  | none => simp
  | some entry => simp

/-- What can be told is told. -/
theorem validate_eq_ok (leads : graph.LeadsIn)
    (told : ∀ node ∈ graph.nodes, graph.canTellNode catalog node = true) :
    graph.validate catalog = .ok (graph.findings catalog) := by
  have fits : graph.entryFits = true := by
    unfold entryFits
    cases given : graph.entry? with
    | none => rfl
    | some entry =>
      obtain ⟨name, target⟩ := entry
      obtain ⟨id, isScalar, -⟩ := hasTarget_iff.mp (leads _ given)
      simp only [show target = .scalar id from isScalar]
  have tellEntry : graph.canTellEntry = true := by
    unfold canTellEntry
    split
    · rename_i name target given
      simp [leads _ given]
    · rfl
  exact validate_eq_ok_iff.mpr ⟨⟨fits, tellEntry, told⟩, rfl⟩

/-! ### One node more -/

/-- A graph with one node more. The others are as they were, or lead to the new one alone. -/
structure Extends (graph : Graph) (new : Node) (result : Graph) : Prop where
  keys : ∀ key, key ∈ result.keys ↔ key = new.key ∨ key ∈ graph.keys
  isNew : new ∈ result.nodes
  others : ∀ node ∈ result.nodes, node = new ∨
    ∃ old ∈ graph.nodes, node = old ∨ node = old.withRouting [.toNode new.id]
  leadsIn : graph.LeadsIn → result.LeadsIn

variable (extended : graph.Extends new result)

include extended

theorem Extends.hasNode {id : Scalar} (known : graph.hasNode id = true) :
    result.hasNode id = true :=
  hasNode_iff.mpr ((extended.keys _).mpr (.inr (hasNode_iff.mp known)))

theorem Extends.admits (admits : graph.Admits route) : result.Admits route := fun target isTarget =>
  (admits target isTarget).imp_right extended.hasNode

/-- Where nothing was wrong, nothing is wrong but with the new node. -/
theorem Extends.nodeFindings (quiet : graph.findings catalog = []) (member : node ∈ result.nodes) :
    node = new ∨ result.nodeFindings catalog node = [] := by
  refine (extended.others node member).imp_right ?_
  rintro ⟨old, isOld, same⟩
  obtain ⟨admits, complete⟩ := nodeFindings_eq_nil_iff.mp ((findings_eq_nil_iff.mp quiet).2 old isOld)
  rw [nodeFindings_eq_nil_iff]
  rcases same with rfl | rfl
  · exact ⟨fun route isRoute => extended.admits (admits route isRoute), complete⟩
  · refine ⟨fun route isRoute => ?_, complete⟩
    obtain rfl := List.mem_singleton.mp isRoute
    intro target isTarget
    obtain rfl := Option.some.inj isTarget
    exact .inr (hasNode_iff.mpr ((extended.keys _).mpr (.inl rfl)))

theorem Extends.mem_findings (quiet : graph.findings catalog = []) {finding : Diagnostic} :
    finding ∈ result.findings catalog ↔ finding ∈ result.nodeFindings catalog new := by
  obtain ⟨leads, -⟩ := findings_eq_nil_iff.mp quiet
  have entry := entryFindings_eq_nil_iff.mpr (extended.leadsIn (entryFindings_eq_nil_iff.mp leads))
  rw [findings, entry, List.nil_append, List.mem_flatMap]
  constructor
  · rintro ⟨node, member, isFinding⟩
    rcases extended.nodeFindings quiet member with rfl | none
    · exact isFinding
    · rw [none] at isFinding
      contradiction
  · exact fun isFinding => ⟨new, extended.isNew, isFinding⟩

omit extended

theorem LeadsIn.insertBefore (leads : graph.LeadsIn) (fresh : plan.node.key ∉ graph.keys)
    (known : graph.hasNode plan.anchor = true) : (graph.insertBefore plan fresh).LeadsIn := by
  intro entry first
  have mapped : Graph.entry? (graph.insertBefore plan fresh) = graph.entry?.map fun entry =>
      (entry.1, if entry.2.denotes plan.anchor then .scalar plan.node.id else entry.2) :=
    List.head?_map
  obtain ⟨old, isFirst, rfl⟩ := Option.map_eq_some_iff.mp (mapped.symm.trans first)
  exact hasTarget_insertBefore fresh known (leads old isFirst)

theorem Extends.of_inserted (equal : plan.anchor.isNaN = false)
    (behind : graph.nodes = [] → plan.precedesEntry = false)
    (inserted : Inserted graph plan result) : graph.Extends plan.placed result := by
  cases inserted with
  | first empty =>
    have isPlaced : plan.placed = plan.node := if_neg (by simp [behind empty])
    rw [isPlaced]
    refine ⟨by simp [Graph.keys, Graph.startWith, empty], .head _,
      fun node member => .inl (List.mem_singleton.mp member), fun _ entry first => ?_⟩
    exact hasTarget_iff.mpr ⟨plan.node.id, target_startWith (List.mem_of_head? first), .head _⟩
  | nowhere _ isNaN => simp [equal] at isNaN
  | before fresh known _ precedes =>
    have isPlaced : plan.placed = plan.node.withRouting [.toNode plan.anchor] := if_pos precedes
    rw [isPlaced]
    refine ⟨fun key => mem_keys_insertBefore fresh known,
      (mem_nodes_insertBefore fresh known).mpr (.inl rfl), fun node member => ?_, fun leads => ?_⟩
    · exact ((mem_nodes_insertBefore fresh known).mp member).imp_right fun isOld =>
        ⟨node, isOld, .inl rfl⟩
    · exact leads.insertBefore fresh known
  | after fresh known _ behind =>
    have isPlaced : plan.placed = plan.node := if_neg (by simp [behind])
    rw [isPlaced]
    refine ⟨fun key => mem_keys_insertAfter _ fresh known,
      (mem_nodes_insertAfter _ fresh known).mpr (.inl rfl), fun node member => ?_, fun leads => ?_⟩
    · refine ((mem_nodes_insertAfter _ fresh known).mp member).imp_right ?_
      rintro ⟨old, isOld, rfl⟩
      refine ⟨old, isOld, ?_⟩
      split
      · exact .inr rfl
      · exact .inl rfl
    · exact fun entry first => hasTarget_insertAfter fresh known (leads entry first)

/-! ### The new node -/

theorem isAt_of_mem_routeFindings {finding : Diagnostic}
    (member : finding ∈ graph.routeFindings node route) : finding.IsAt node.id := by
  unfold routeFindings at member
  split at member
  · cases member
  split at member
  · cases member
  · obtain rfl := List.mem_singleton.mp member
    exact ⟨⟨".routing", by simp, rfl⟩, by simp⟩

/-- The planner looks components up as the check does. -/
theorem catalogFindings_of_plan {draft : Draft} {id : String} {packAlias operation : Option String}
    {payload : Value} (quiet : Plan.catalogFindings
      (.ok (draft, .component id packAlias operation payload)) catalog = []) :
    catalogFindings node id payload catalog = [] := by
  cases catalog with
  | none => rfl
  | some catalog =>
    simp only [Plan.catalogFindings, Plan.componentFindings] at quiet
    unfold catalogFindings
    cases found : catalog.resolve id with
    | none => simp [found] at quiet
    | some entry =>
      simp only [found, List.map_eq_nil_iff] at quiet ⊢
      exact quiet

theorem isAt_of_mem_kindFindings {finding : Diagnostic} {draft : Draft}
    (quiet : Plan.catalogFindings (.ok (draft, node.kind)) catalog = [])
    (member : finding ∈ kindFindings catalog node) : finding.IsAt node.id := by
  unfold kindFindings at member
  cases kind : node.kind with
  | component id packAlias operation payload =>
    rw [kind] at quiet member
    simp only [catalogFindings_of_plan quiet, List.append_nil] at member
    split at member
    · obtain rfl := List.mem_singleton.mp member
      exact ⟨⟨"", by simp, by simp⟩, by simp⟩
    · cases member
  | questions fields =>
    rw [kind] at member
    simp only at member
    split at member
    · cases member
    · obtain rfl := List.mem_singleton.mp member
      exact ⟨⟨".questions.fields", by simp, rfl⟩, by simp⟩
  | template text =>
    rw [kind] at member
    simp only at member
    split at member
    · obtain rfl := List.mem_singleton.mp member
      exact ⟨⟨".template", by simp, rfl⟩, by simp⟩
    · cases member
  | other key payload =>
    rw [kind] at member
    cases member

theorem kindFindings_eq_nil_iff {draft : Draft}
    (quiet : Plan.catalogFindings (.ok (draft, node.kind)) catalog = [])
    (known : ∀ key payload, node.kind ≠ .other key payload) :
    kindFindings catalog node = [] ↔ node.kind.IsComplete := by
  unfold kindFindings Kind.IsComplete
  cases kind : node.kind with
  | component id packAlias operation payload =>
    rw [kind] at quiet
    simp [catalogFindings_of_plan quiet]
  | questions fields => simp
  | template text => simp
  | other key payload => exact absurd kind (known key payload)

/-! ### Valid flows -/

variable {request : Request}

theorem kind_of_make (made : Plan.make graph request catalog = .ok plan) :
    (∃ draft, Plan.catalogFindings (.ok (draft, plan.node.kind)) catalog = []) ∧
      ∀ key payload, plan.node.kind ≠ .other key payload := by
  obtain ⟨draft, parts⟩ := Plan.exists_isMadeOf made
  exact ⟨⟨draft, parts.uncatalogued⟩, fun key payload =>
    Draft.kind_ne_other (Draft.of_ofValue? parts.drafted).1 parts.kinded⟩

/-- Targets of the new node can be told, unless they are nodes anyway. -/
theorem told_of_make (quiet : graph.findings catalog = [])
    (made : Plan.make graph request catalog = .ok plan) :
    ∀ route ∈ plan.node.routing, ∀ target, route.target = some target →
      graph.hasNode target = true ∨ target.isWritable = true := by
  intro route isRoute target isTarget
  rcases Plan.mem_routing_of_make made isRoute with ⟨draft, drafted, given⟩ | ⟨node, isNode, taken⟩
  · obtain ⟨s, rfl⟩ := (Draft.of_ofValue? drafted).2.1 route given target isTarget
    exact .inr rfl
  · rcases admits_of_findings quiet node isNode route taken target isTarget with rfl | known
    · exact .inr rfl
    · exact .inl known

theorem canTellNode_of_told (writable : node.id.isWritable = true)
    (told : ∀ route ∈ node.routing, ∀ target, route.target = some target →
      graph.hasNode target = true ∨ target.isWritable = true) :
    graph.canTellNode catalog node = true := by
  have all : (node.routing.filterMap Route.target).all
      (fun target => graph.hasNode target || target.isWritable) = true := by
    rw [List.all_eq_true]
    intro target member
    obtain ⟨route, isRoute, isTarget⟩ := List.mem_filterMap.mp member
    simpa using told route isRoute target isTarget
  simp [canTellNode, writable, all]

/-- In front of an entry the anchor is there to lead to. -/
theorem hasNode_of_precedes (made : Plan.make graph request catalog = .ok plan)
    (precedes : plan.precedesEntry = true) : graph.hasNode plan.anchor = true := by
  have nonempty := ((Plan.precedes_of_make made).mp precedes).2.1
  exact (Plan.anchor_of_make made).resolve_right fun ⟨empty, _⟩ => nonempty empty

theorem told_placed (quiet : graph.findings catalog = [])
    (made : Plan.make graph request catalog = .ok plan)
    (extended : graph.Extends plan.placed result) :
    ∀ route ∈ plan.placed.routing, ∀ target, route.target = some target →
      result.hasNode target = true ∨ target.isWritable = true := by
  intro route isRoute target isTarget
  unfold Plan.placed at isRoute
  split at isRoute
  · rename_i precedes
    obtain rfl := List.mem_singleton.mp isRoute
    obtain rfl := Option.some.inj isTarget
    exact .inl (extended.hasNode (hasNode_of_precedes made precedes))
  · exact (told_of_make quiet made route isRoute target isTarget).imp_left extended.hasNode

theorem Extends.hasNode_iff (extended : graph.Extends new result) {name : String}
    (named : new.id = .str name) {id : Scalar} :
    result.hasNode id = true ↔ graph.hasNode id = true ∨ id = new.id := by
  rw [Graph.hasNode_iff, Graph.hasNode_iff, extended.keys, or_comm, Node.key, ← Scalar.same_iff, named,
    Scalar.same_str]

theorem admits_placed_iff (made : Plan.make graph request catalog = .ok plan)
    (extended : graph.Extends plan.placed result) :
    (∀ route ∈ plan.placed.routing, result.Admits route) ↔
      (plan.precedesEntry = true ∨ ∀ route ∈ plan.node.routing, ∀ target,
        route.target = some target →
          target = .str outTarget ∨ graph.hasNode target = true ∨ target = plan.node.id) := by
  obtain ⟨⟨name, named⟩, -⟩ := Plan.node_of_make made
  cases precedes : plan.precedesEntry with
  | true =>
    have isPlaced : plan.placed = plan.node.withRouting [.toNode plan.anchor] := if_pos precedes
    simp only [true_or, iff_true]
    intro route isRoute target isTarget
    rw [isPlaced] at isRoute
    obtain rfl := List.mem_singleton.mp isRoute
    obtain rfl := Option.some.inj isTarget
    exact .inr (extended.hasNode (hasNode_of_precedes made precedes))
  | false =>
    have isPlaced : plan.placed = plan.node := if_neg (by simp [precedes])
    rw [isPlaced] at extended ⊢
    simp only [Admits, extended.hasNode_iff named, Bool.false_eq_true, false_or]

/-- An insertion makes a valid flow invalid only by the new node. -/
theorem validate_apply (texts : graph.HasTextIds) (valid : graph.validate catalog = .ok [])
    (made : Plan.make graph request catalog = .ok plan) (applied : graph.apply plan = .ok result) :
    ∃ findings, result.validate catalog = .ok findings ∧
      (findings = [] ↔
        (plan.precedesEntry = true ∨ ∀ route ∈ plan.node.routing, ∀ target,
          route.target = some target →
            target = .str outTarget ∨ graph.hasNode target = true ∨ target = plan.node.id) ∧
        plan.node.kind.IsComplete) ∧
      ∀ finding ∈ findings, finding.IsAt plan.node.id := by
  have equal := Plan.isNaN_anchor_of_make texts made
  have quiet := findings_of_validate valid
  obtain ⟨-, inserted⟩ := apply_eq_ok_iff.mp applied
  have behind (empty : graph.nodes = []) : plan.precedesEntry = false :=
    Bool.eq_false_iff.mpr fun precedes => ((Plan.precedes_of_make made).mp precedes).2.1 empty
  have extended := Extends.of_inserted equal behind inserted
  obtain ⟨⟨name, named⟩, -⟩ := Plan.node_of_make made
  obtain ⟨⟨draft, uncatalogued⟩, known⟩ := kind_of_make made
  rw [← Plan.placed_kind] at uncatalogued known
  -- the check itself does not fail: only the new node can have anything to tell
  have told : ∀ node ∈ result.nodes, result.canTellNode catalog node = true := by
    intro node member
    rcases extended.nodeFindings quiet member with rfl | none
    · exact canTellNode_of_told (by rw [Plan.placed_id, named]; rfl) (told_placed quiet made extended)
    · simp [canTellNode, none]
  have leads := extended.leadsIn (entryFindings_eq_nil_iff.mp (findings_eq_nil_iff.mp quiet).1)
  have same : result.findings catalog = [] ↔ result.nodeFindings catalog plan.placed = [] := by
    simp only [List.eq_nil_iff_forall_not_mem, extended.mem_findings quiet]
  refine ⟨result.findings catalog, validate_eq_ok leads told, ?_, fun finding member => ?_⟩
  · rw [same, nodeFindings_eq_nil_iff, admits_placed_iff made extended,
      kindFindings_eq_nil_iff uncatalogued known, Plan.placed_kind]
  · rw [extended.mem_findings quiet] at member
    rw [← Plan.placed_id]
    rcases List.mem_append.mp member with ofRoutes | ofKind
    · obtain ⟨route, -, isFinding⟩ := List.mem_flatMap.mp ofRoutes
      exact isAt_of_mem_routeFindings isFinding
    · exact isAt_of_mem_kindFindings uncatalogued ofKind

theorem validate_apply_pause : relay.HasTextIds ∧ relay.validate none = .ok [] ∧
    Plan.make relay pause none = .ok pausePlan ∧
    ∃ result findings, relay.apply pausePlan = .ok result ∧ result.validate none = .ok findings ∧
      (findings = [] ↔
        (pausePlan.precedesEntry = true ∨ ∀ route ∈ pausePlan.node.routing, ∀ target,
          route.target = some target →
            target = .str outTarget ∨ relay.hasNode target = true ∨ target = pausePlan.node.id) ∧
        pausePlan.node.kind.IsComplete) ∧
      ∀ finding ∈ findings, finding.IsAt "pause" := by
  have valid : relay.validate none = .ok [] := by decide +kernel
  have applied : relay.apply pausePlan = .ok _ := rfl
  obtain ⟨findings, validated, none, located⟩ :=
    validate_apply hasTextIds_relay valid make_pause applied
  exact ⟨hasTextIds_relay, valid, make_pause, _, findings, applied, validated, none, located⟩

end Graph

end StepFlow
