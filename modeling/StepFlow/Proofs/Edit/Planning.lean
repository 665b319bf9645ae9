import StepFlow.Edit.Plan
import StepFlow.Proofs.Flow.Lookup
import StepFlow.Proofs.Flow.Substitution
import StepFlow.Proofs.Outcome

/-! When planning succeeds. Main statements: a plan consists of the anchor, the kind, the id
and the routes that its parts settle, and there is none if one of them reports anything. -/
namespace StepFlow

open Outcome

theorem any_closesCycle_iff {routes : List Route} {allowCycles : Bool} {anchor : Scalar} :
    routes.any (closesCycle allowCycles anchor) = true ↔
      allowCycles = false ∧ ∃ route ∈ routes, route.leadsTo anchor = true := by
  simp only [List.any_eq_true, closesCycle, Bool.and_eq_true, Bool.not_eq_true']
  constructor
  · rintro ⟨route, member, refused, leads⟩
    exact ⟨refused, route, member, leads⟩
  · rintro ⟨refused, route, member, leads⟩
    exact ⟨route, member, refused, leads⟩

theorem substitutes_expandRoute {provided fallback : List Route} :
    Substitutes Route.isPlaceholder fallback provided (provided.flatMap (expandRoute fallback)) :=
  .flatMap Route.isPlaceholder fallback provided

theorem expandRoutes_eq_ok_iff {provided fallback routes : List Route} {allowCycles : Bool}
    {anchor : Scalar} {requirePlaceholder : Bool} :
    expandRoutes provided fallback allowCycles anchor requirePlaceholder = .ok routes ↔
      routes = provided.flatMap (expandRoute fallback) ∧
        (∀ route ∈ routes, closesCycle allowCycles anchor route = false) ∧
        (requirePlaceholder = true → provided.any Route.isPlaceholder = true) := by
  simp only [expandRoutes]
  split
  · rename_i cycle
    obtain ⟨route, member, closes⟩ := List.any_eq_true.mp cycle
    simp only [reduceCtorEq, false_iff, not_and]
    rintro rfl quiet
    rw [quiet route member] at closes
    contradiction
  · rename_i quiet
    simp only [List.any_eq_true, not_exists, not_and, Bool.not_eq_true] at quiet
    split
    · rename_i missing
      simp only [Bool.and_eq_true, Bool.not_eq_true'] at missing
      simp [missing]
    · rename_i given
      constructor
      · rintro ⟨⟩
        exact ⟨rfl, quiet, by simpa using given⟩
      · rintro ⟨rfl, -, -⟩
        rfl

/-- Routes are given, or taken over. -/
theorem mem_of_expandRoutes {provided fallback routes : List Route} {allowCycles : Bool}
    {anchor : Scalar} {requirePlaceholder : Bool} {route : Route}
    (expanded : expandRoutes provided fallback allowCycles anchor requirePlaceholder = .ok routes)
    (member : route ∈ routes) : route ∈ provided ∨ route ∈ fallback := by
  obtain ⟨rfl, -⟩ := expandRoutes_eq_ok_iff.mp expanded
  exact (substitutes_expandRoute.mem_iff.mp member).imp And.left And.left

namespace Anchor

variable {graph : Graph} {after : Option Scalar} {anchor : Anchor}

/-- In a graph with nodes, the anchor is one of them. -/
theorem hasNode_of_resolve (resolved : resolve graph after = .ok anchor)
    (nonempty : graph.nodes ≠ []) : graph.hasNode anchor.id = true := by
  have first_known {first : Node} {rest : List Node} (cons : graph.nodes = first :: rest) :
      graph.hasNode first.id = true :=
    Graph.hasNode_iff_exists.mpr ⟨first, by simp [cons], rfl⟩
  unfold resolve at resolved
  split at resolved
  · split at resolved <;> cases resolved
    assumption
  · split at resolved
    · contradiction
    · split at resolved
      · split at resolved <;> cases resolved
        · assumption
        · exact first_known ‹_›
      · cases resolved
      · cases resolved
        exact first_known ‹_›

end Anchor

namespace Plan

variable {graph : Graph} {request : Request} {catalog : Option Catalog} {plan : Plan}

theorem faultOf_eq_ok_ok {α : Type} {result : Except Failure α} {value : α} :
    faultOf result = .ok (.ok value) ↔ result = .ok value := by
  cases result with
  | ok => simp [faultOf]
  | error failure => cases failure <;> simp [faultOf]

theorem routing_eq_ok_iff {anchor : Anchor} {draft : Draft} {id : String} {routes : List Route} :
    routing graph request anchor draft id = .ok routes ↔
      expandRoutes draft.routing (anchorRoutes graph anchor)
          (request.allowCycles || anchor.precedesEntry) anchor.id
          (request.requirePlaceholder && !graph.isEmpty) = .ok routes ∧
        (routes = [] → graph.isEmpty = true) := by
  simp only [routing]
  split
  · rename_i expanded
    simp [expanded]
  · rename_i expanded
    simp [expanded]
  · rename_i expanded
    rw [expanded]
    split <;> rename_i isEmpty <;> simp [isEmpty, eq_comm]
  · rename_i notEmpty expanded
    rw [expanded]
    constructor
    · rintro ⟨⟩
      exact ⟨rfl, fun empty => (notEmpty empty).elim⟩
    · rintro ⟨⟨⟩, -⟩
      rfl

theorem assemble_eq_ok_iff {anchor : Anchor} {draft : Draft} {kind : Kind} :
    assemble graph request anchor (draft, kind) = .ok plan ↔ ∃ id routes,
      newId graph (request.hint <|> draft.operation) anchor = .ok id ∧
        routing graph request anchor draft id = .ok routes ∧
        plan = ⟨anchor.id, ⟨.str id, kind, routes, []⟩, anchorRoutes graph anchor,
          anchor.precedesEntry, request.allowCycles⟩ := by
  simp only [assemble, bind_eq_ok, mapError_eq_ok, pure_eq_ok]
  constructor
  · rintro ⟨id, named, routes, expanded, rfl⟩
    exact ⟨id, routes, named, expanded, rfl⟩
  · rintro ⟨id, routes, named, expanded, rfl⟩
    exact ⟨id, named, routes, expanded, rfl⟩

theorem make_eq_ok_iff :
    make graph request catalog = .ok plan ↔ ∃ anchor draft kind,
      Anchor.resolve graph request.after = .ok anchor ∧
        describe request.node = .ok (draft, kind) ∧ hintFindings request.hint = [] ∧
        catalogFindings (.ok (draft, kind)) catalog = [] ∧
        assemble graph request anchor (draft, kind) = .ok plan := by
  simp only [make, bind_eq_ok, mapError_eq_ok]
  constructor
  · rintro ⟨anchor, resolved, described, drafted, made⟩
    split at made
    · rename_i anchor described
      split at made
      · rename_i quiet
        simp only [anchorFindings, draftFindings, List.nil_append, List.append_nil,
          List.isEmpty_iff, List.append_eq_nil_iff] at quiet
        exact ⟨anchor, described.1, described.2, faultOf_eq_ok_ok.mp resolved,
          faultOf_eq_ok_ok.mp drafted, quiet.1, quiet.2, made⟩
      · contradiction
    · contradiction
  · rintro ⟨anchor, draft, kind, resolved, drafted, unhinted, uncatalogued, made⟩
    refine ⟨.ok anchor, faultOf_eq_ok_ok.mpr resolved, .ok (draft, kind),
      faultOf_eq_ok_ok.mpr drafted, ?_⟩
    simp [anchorFindings, draftFindings, unhinted, uncatalogued, made]

theorem describe_eq_ok_iff {value : Value} {draft : Draft} {kind : Kind} :
    describe value = .ok (draft, kind) ↔
      Draft.ofValue? value = .ok draft ∧ draft.kind = .ok kind := by
  simp only [describe, bind_eq_ok, pure_eq_ok, Prod.mk.injEq]
  constructor
  · rintro ⟨draft, drafted, kind, kinded, rfl, rfl⟩
    exact ⟨drafted, kinded⟩
  · rintro ⟨drafted, kinded⟩
    exact ⟨draft, drafted, kind, kinded, rfl, rfl⟩

/-- Where the plan inserts. -/
def place (plan : Plan) : Anchor :=
  ⟨plan.anchor, plan.precedesEntry⟩

/-- The parts of the plan are settled by the graph, the request and its draft. -/
structure IsMadeOf (graph : Graph) (request : Request) (catalog : Option Catalog) (draft : Draft)
    (plan : Plan) : Prop where
  resolved : Anchor.resolve graph request.after = .ok plan.place
  drafted : Draft.ofValue? request.node = .ok draft
  kinded : draft.kind = .ok plan.node.kind
  uncatalogued : catalogFindings (.ok (draft, plan.node.kind)) catalog = []
  named : ∃ id, newId graph (request.hint <|> draft.operation) plan.place = .ok id ∧
    plan.node.id = .str id
  expanded : expandRoutes draft.routing (anchorRoutes graph plan.place)
    (request.allowCycles || plan.precedesEntry) plan.anchor
    (request.requirePlaceholder && !graph.isEmpty) = .ok plan.node.routing
  plain : plan.node.extras = []
  prior : plan.priorRouting = anchorRoutes graph plan.place
  permission : plan.allowCycles = request.allowCycles

theorem exists_isMadeOf (made : make graph request catalog = .ok plan) :
    ∃ draft, IsMadeOf graph request catalog draft plan := by
  obtain ⟨anchor, draft, kind, resolved, described, -, quiet, assembled⟩ := make_eq_ok_iff.mp made
  obtain ⟨drafted, kinded⟩ := describe_eq_ok_iff.mp described
  obtain ⟨id, routes, named, routed, rfl⟩ := assemble_eq_ok_iff.mp assembled
  exact ⟨draft, resolved, drafted, kinded, quiet, ⟨id, named, rfl⟩,
    (routing_eq_ok_iff.mp routed).1, rfl, rfl, rfl⟩

/-- A new node has a text for its id, and brings no extras along. -/
theorem node_of_make (made : make graph request catalog = .ok plan) :
    (∃ name, plan.node.id = .str name) ∧ plan.node.extras = [] := by
  obtain ⟨draft, parts⟩ := exists_isMadeOf made
  exact ⟨parts.named.imp fun _ => And.right, parts.plain⟩

/-- The new node has routes that the draft gives or the anchor has. -/
theorem mem_routing_of_make (made : make graph request catalog = .ok plan) {route : Route}
    (member : route ∈ plan.node.routing) :
    (∃ draft, Draft.ofValue? request.node = .ok draft ∧ route ∈ draft.routing) ∨
      ∃ node ∈ graph.nodes, route ∈ node.routing := by
  obtain ⟨draft, parts⟩ := exists_isMadeOf made
  rcases mem_of_expandRoutes parts.expanded member with given | taken
  · exact .inl ⟨draft, parts.drafted, given⟩
  · right
    unfold anchorRoutes at taken
    cases found : graph.node? plan.place.id with
    | none => simp [found] at taken
    | some node =>
      rw [found] at taken
      exact ⟨node, (Graph.node?_eq_some_iff.mp found).1, taken⟩

end Plan

end StepFlow
