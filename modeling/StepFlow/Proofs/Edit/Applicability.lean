import StepFlow.Proofs.Edit.Drafting
import StepFlow.Proofs.Edit.Insertion
import StepFlow.Proofs.Edit.Naming

/-! Plans fit the graphs they are made for. Main statement: planning ends with findings or with a
plan that can be applied, unless the anchor already leads to itself and the new node takes nothing
over from it. -/
namespace StepFlow

open Outcome

/-- One of the node's own routes leads back to it. -/
def Graph.IsLooped (graph : Graph) (id : Scalar) : Prop :=
  ∃ node, graph.node? id = some node ∧ ∃ route ∈ node.routing, route.leadsTo id = true

/-! ### Anchors -/

namespace Anchor

variable {graph : Graph} {after : Option Scalar} {anchor : Anchor}

/-- The first entrypoint leads to a node. -/
def IsEntry (graph : Graph) : Prop :=
  ∃ entry, graph.entry? = some entry ∧ graph.hasTarget entry.2 = true

theorem precedesEntry_iff (resolved : resolve graph after = .ok anchor) :
    anchor.precedesEntry = true ↔ after = .none ∧ graph.nodes ≠ [] ∧ IsEntry graph := by
  unfold resolve at resolved
  split at resolved
  · split at resolved <;> cases resolved
    simp
  · split at resolved
    · rename_i empty
      cases resolved
      simp [empty]
    · rename_i first rest nodes
      split at resolved
      · rename_i name target entry
        split at resolved <;> cases resolved
        · rename_i known
          simp [nodes, IsEntry, entry, Graph.hasTarget, known]
        · rename_i unknown
          simp [IsEntry, entry, Graph.hasTarget, unknown]
      · cases resolved
      · rename_i entry
        cases resolved
        simp [IsEntry, entry]

theorem id_of_resolve (resolved : resolve graph after = .ok anchor) :
    graph.hasNode anchor.id = true ∨ graph.nodes = [] ∧ anchor.id = Anchor.none := by
  by_cases empty : graph.nodes = []
  · right
    cases after with
    | none =>
      simp only [resolve, empty] at resolved
      cases resolved
      exact ⟨empty, rfl⟩
    | some id =>
      have unknown : graph.hasNode id = false := by simp [Graph.hasNode, empty]
      simp [resolve, unknown] at resolved
  · exact .inl (hasNode_of_resolve resolved empty)

theorem onlyFaults_resolve (writable : ∀ id, after = some id → id.isWritable = true)
    (fits : after = .none → graph.nodes ≠ [] → graph.entryFits = true) :
    OnlyFaults (resolve graph after) := by
  unfold resolve
  split
  · rename_i id
    split
    · exact onlyFaults_ok
    · have told : Failure.ofFault (.anchorNotFound id) = .flow (.anchorNotFound id) :=
        if_pos (by simp [FlowFault.shown, writable id rfl])
      rw [told]
      exact onlyFaults_flow
  · split
    · exact onlyFaults_ok
    · rename_i first rest nodes
      have fits := fits rfl (by simp [nodes])
      split
      · split
        · exact onlyFaults_ok
        · exact onlyFaults_ok
      · rename_i entry noScalar given
        obtain ⟨name, target⟩ := entry
        rw [Graph.entryFits, given] at fits
        cases target with
        | scalar target => exact (noScalar name target rfl).elim
        | _ => cases fits
      · exact onlyFaults_ok

end Anchor

namespace Plan

variable {graph result : Graph} {request : Request} {catalog : Option Catalog} {plan : Plan}
  {anchor : Anchor} {draft : Draft} {kind : Kind} {hint : Option String} {id : String}

/-! ### Parts of a plan -/

theorem exists_newId (text : ∃ s, anchor.id = .str s) : ∃ id, newId graph hint anchor = .ok id := by
  obtain ⟨s, isText⟩ := text
  exact ⟨_, by rw [newId, isText]⟩

/-- The id of the new node is not in use. -/
theorem hasNode_newId (named : newId graph hint anchor = .ok id) :
    graph.hasNode (.str id) = false := by
  have unused : Scalar.str id ∉ graph.ids := by
    unfold newId at named
    split at named
    · cases named
      exact Ids.generate_not_mem
    · split at named <;> cases named
      exact Ids.generate_not_mem
  rw [Bool.eq_false_iff]
  intro known
  obtain ⟨node, isNode, same⟩ := List.any_eq_true.mp known
  rw [Scalar.same_str] at same
  exact unused (List.mem_map.mpr ⟨node, isNode, same⟩)

theorem ne_nil_of_routing {findings : List Diagnostic}
    (refused : routing graph request anchor draft id = .error findings) : findings ≠ [] := by
  simp only [routing] at refused
  split at refused
  · cases refused
    simp
  · cases refused
    simp
  · split at refused <;> cases refused
    simp
  · cases refused

theorem any_closesCycle_anchorRoutes {allowCycles : Bool} :
    (anchorRoutes graph anchor).any (closesCycle allowCycles anchor.id) = true ↔
      allowCycles = false ∧ graph.IsLooped anchor.id := by
  rw [any_closesCycle_iff]
  unfold anchorRoutes Graph.IsLooped
  cases graph.node? anchor.id <;> simp

/-! ### Outcomes -/

theorem faultOf_of_onlyFaults {α : Type} {x : Except Failure α} (only : OnlyFaults x) :
    (∃ a, x = .ok a ∧ faultOf x = .ok (.ok a)) ∨ ∃ fault, faultOf x = .ok (.error fault) := by
  cases x with
  | ok a => exact .inl ⟨a, rfl, rfl⟩
  | error failure =>
    obtain ⟨fault, rfl⟩ := only failure rfl
    exact .inr ⟨fault, rfl⟩

theorem assemble_cases (text : ∃ s, anchor.id = .str s) :
    (∃ plan, assemble graph request anchor (draft, kind) = .ok plan) ∨
      ∃ findings, findings ≠ [] ∧
        assemble graph request anchor (draft, kind) = .error (.findings findings) := by
  obtain ⟨id, named⟩ : ∃ id, newId graph (request.hint <|> draft.operation) anchor = .ok id :=
    exists_newId text
  cases routed : routing graph request anchor draft id with
  | ok routes => exact .inl ⟨_, assemble_eq_ok_iff.mpr ⟨id, routes, named, routed, rfl⟩⟩
  | error findings =>
    refine .inr ⟨findings, ne_nil_of_routing routed, ?_⟩
    simp only [assemble, named, Except.mapError, bind, Except.bind, routed]

/-- If no part of the planning fails, it ends with a plan or with findings. -/
theorem make_cases (resolving : OnlyFaults (Anchor.resolve graph request.after))
    (describing : OnlyFaults (describe request.node))
    (text : ∀ anchor, Anchor.resolve graph request.after = .ok anchor → ∃ s, anchor.id = .str s) :
    (∃ plan, make graph request catalog = .ok plan) ∨
      ∃ findings, findings ≠ [] ∧ make graph request catalog = .error (.findings findings) := by
  obtain ⟨anchor, resolved, anchored⟩ | ⟨fault, unanchored⟩ := faultOf_of_onlyFaults resolving
  · obtain ⟨⟨draft, kind⟩, -, described⟩ | ⟨fault, undescribed⟩ := faultOf_of_onlyFaults describing
    · rw [make, anchored, described]
      simp only [Except.mapError, bind, Except.bind]
      split
      · exact assemble_cases (text anchor resolved)
      · rename_i noisy
        exact .inr ⟨_, by simpa using noisy, rfl⟩
    · refine .inr ⟨_, ?_, by rw [make, anchored, undescribed]; rfl⟩
      simp [draftFindings]
  · obtain ⟨_, -, described⟩ | ⟨_, described⟩ := faultOf_of_onlyFaults describing
    all_goals
      refine .inr ⟨_, ?_, by rw [make, unanchored, described]; rfl⟩
      simp [anchorFindings]

/-! ### Plans and their graphs -/

/-- The anchor leads to itself, and a step is to come behind it without permission for that. -/
def IsBlocked (graph : Graph) (request : Request) (plan : Plan) : Prop :=
  graph.nodes ≠ [] ∧ plan.precedesEntry = false ∧ request.allowCycles = false ∧
    graph.IsLooped plan.anchor

structure IsApplicable (graph : Graph) (request : Request) (plan : Plan) : Prop where
  fresh : graph.hasNode plan.node.id = false
  anchored : graph.hasNode plan.anchor = true ∨ graph.nodes = [] ∧ plan.anchor = Anchor.none
  precedes : plan.precedesEntry = true ↔
    request.after = none ∧ graph.nodes ≠ [] ∧ Anchor.IsEntry graph
  acyclic : request.allowCycles = false → plan.precedesEntry = false →
    ∀ route ∈ plan.node.routing, route.leadsTo plan.anchor = false
  applied : ¬ IsBlocked graph request plan → ∃ result, graph.apply plan = .ok result
  refused : IsBlocked graph request plan →
    graph.apply plan = .error (.routing (.anchorCycle plan.anchor) (.node plan.anchor))
  inherits : ∀ draft, Draft.ofValue? request.node = .ok draft →
    draft.routing.any Route.isPlaceholder = true → ¬ IsBlocked graph request plan

theorem acyclic_of_make (made : make graph request catalog = .ok plan)
    (refused : request.allowCycles = false) (behind : plan.precedesEntry = false) :
    ∀ route ∈ plan.node.routing, route.leadsTo plan.anchor = false := by
  obtain ⟨draft, parts⟩ := exists_isMadeOf made
  obtain ⟨-, unlooped, -⟩ := expandRoutes_eq_ok_iff.mp parts.expanded
  intro route isRoute
  have noCycle := unlooped route isRoute
  simpa [closesCycle, refused, behind] using noCycle

/-- Behind a placeholder stand all the routes of the anchor, of which none leads back to it. -/
theorem not_isBlocked_of_isPlaceholder (made : make graph request catalog = .ok plan)
    (drafted : Draft.ofValue? request.node = .ok draft)
    (inherits : draft.routing.any Route.isPlaceholder = true) : ¬ IsBlocked graph request plan := by
  rintro ⟨-, behind, refused, node, found, route, isRoute, leads⟩
  have acyclic := acyclic_of_make made refused behind
  obtain ⟨other, parts⟩ := exists_isMadeOf made
  obtain rfl := Except.ok.inj (parts.drafted.symm.trans drafted)
  obtain ⟨placeholder, isGiven, isPlaceholder⟩ := List.any_eq_true.mp inherits
  have taken : route ∈ plan.node.routing := by
    rw [(expandRoutes_eq_ok_iff.mp parts.expanded).1]
    refine List.mem_flatMap.mpr ⟨placeholder, isGiven, ?_⟩
    simpa [expandRoute, isPlaceholder, anchorRoutes, place, found] using isRoute
  exact absurd leads (Bool.eq_false_iff.mp (acyclic route taken))

theorem fresh_of_make (made : make graph request catalog = .ok plan) :
    graph.hasNode plan.node.id = false := by
  obtain ⟨draft, parts⟩ := exists_isMadeOf made
  obtain ⟨id, named, isId⟩ := parts.named
  exact isId ▸ hasNode_newId named

theorem anchor_of_make (made : make graph request catalog = .ok plan) :
    graph.hasNode plan.anchor = true ∨ graph.nodes = [] ∧ plan.anchor = Anchor.none := by
  obtain ⟨draft, parts⟩ := exists_isMadeOf made
  exact Anchor.id_of_resolve parts.resolved

/-- Texts are equal to themselves. -/
theorem isNaN_anchor_of_make (texts : graph.HasTextIds)
    (made : make graph request catalog = .ok plan) : plan.anchor.isNaN = false := by
  rcases anchor_of_make made with known | ⟨-, none⟩
  · exact texts.isNaN_eq_false known
  · rw [none]
    rfl

theorem precedes_of_make (made : make graph request catalog = .ok plan) :
    plan.precedesEntry = true ↔ request.after = none ∧ graph.nodes ≠ [] ∧ Anchor.IsEntry graph := by
  obtain ⟨draft, parts⟩ := exists_isMadeOf made
  exact Anchor.precedesEntry_iff parts.resolved

/-- Threading the anchor fails only at a loop. -/
theorem closesCycle_of_make (made : make graph request catalog = .ok plan) :
    plan.priorRouting.any (closesCycle plan.allowCycles plan.anchor) = true ↔
      request.allowCycles = false ∧ graph.IsLooped plan.anchor := by
  obtain ⟨draft, parts⟩ := exists_isMadeOf made
  rw [parts.prior, parts.permission]
  exact any_closesCycle_anchorRoutes

/-- The checks that applying repeats were made in planning, but for the loops of the anchor. -/
theorem apply_of_make (texts : graph.HasTextIds) (made : make graph request catalog = .ok plan) :
    (¬ IsBlocked graph request plan → ∃ result, graph.apply plan = .ok result) ∧
      (IsBlocked graph request plan →
        graph.apply plan = .error (.routing (.anchorCycle plan.anchor) (.node plan.anchor))) := by
  have unknown : plan.node.key ∉ graph.keys := fun known =>
    absurd (Graph.hasNode_iff.mpr known) (Bool.eq_false_iff.mp (fresh_of_make made))
  have closes := closesCycle_of_make made
  rcases anchor_of_make made with known | ⟨empty, -⟩
  · -- the id of a node is a text here, so the anchor is found again by equality
    have equal : plan.anchor.isNaN = false := texts.isNaN_eq_false known
    refine ⟨fun unblocked => ?_, fun ⟨_, behind, refused, looped⟩ => ?_⟩
    · cases precedes : plan.precedesEntry with
      | true => exact ⟨_, (Graph.Inserted.before unknown known equal precedes).apply unknown⟩
      | false =>
        have acyclic : plan.priorRouting.any (closesCycle plan.allowCycles plan.anchor) = false := by
          rw [Bool.eq_false_iff]
          intro closed
          obtain ⟨refused, looped⟩ := closes.mp closed
          exact unblocked ⟨Graph.nodes_ne_nil known, precedes, refused, looped⟩
        exact ⟨_, (Graph.Inserted.after unknown known equal precedes acyclic).apply unknown⟩
    · simp [Graph.apply, unknown, Graph.isEmpty_eq_false known, known, equal, behind, threadAnchor,
        closes.mpr ⟨refused, looped⟩]
  · exact ⟨fun _ => ⟨_, (Graph.Inserted.first empty).apply unknown⟩,
      fun blocked => absurd empty blocked.1⟩

/-- Planning ends with findings or with a plan that fits. -/
def IsSettled (graph : Graph) (request : Request) (catalog : Option Catalog) : Prop :=
  (∃ plan, make graph request catalog = .ok plan ∧ IsApplicable graph request plan) ∨
    ∃ findings, findings ≠ [] ∧ make graph request catalog = .error (.findings findings)

theorem not_isSettled_of_failure {failure : Failure}
    (failed : make graph request catalog = .error (.failure failure)) :
    ¬ IsSettled graph request catalog := by
  rintro (⟨plan, made, -⟩ | ⟨findings, -, refused⟩)
  · cases failed.symm.trans made
  · cases failed.symm.trans refused

theorem isSettled_make (texts : graph.HasTextIds)
    (plain : ∀ members, request.node = .map members → Draft.HasPlainKeys members)
    (writable : ∀ id, request.after = some id → id.isWritable = true)
    (fits : request.after = none → graph.nodes ≠ [] → graph.entryFits = true) :
    IsSettled graph request catalog := by
  have describing : OnlyFaults (describe request.node) :=
    (Draft.onlyFaults_ofValue? plain).bind fun draft _ =>
      Draft.onlyFaults_kind.bind fun kind _ => onlyFaults_ok
  have text {anchor : Anchor} (resolved : Anchor.resolve graph request.after = .ok anchor) :
      ∃ s, anchor.id = .str s := by
    rcases Anchor.id_of_resolve resolved with known | ⟨-, none⟩
    · obtain ⟨node, isNode, sameId⟩ := texts.exists_id known
      exact sameId ▸ texts node isNode
    · exact ⟨_, none⟩
  refine (make_cases (Anchor.onlyFaults_resolve writable fits) describing fun _ => text).imp_left ?_
  rintro ⟨plan, made⟩
  obtain ⟨applied, refused⟩ := apply_of_make texts made
  exact ⟨plan, made, fresh_of_make made, anchor_of_make made, precedes_of_make made,
    acyclic_of_make made, applied, refused, fun _ => not_isBlocked_of_isPlaceholder made⟩

/-- A flow of one step that is to be entered at a list. -/
def strayed : Graph where
  header := ⟨.str "strayed", .str "messaging", .null, .null, [], [], .null, .null⟩
  entrypoints := [(.str defaultEntrypoint, .list [.str "stay"])]
  nodes := [⟨.str "stay", .template "Stay", [.toNode (.str "stay")], []⟩]
  names_distinct := by decide
  ids_distinct := by decide

theorem hasTextIds_strayed : strayed.HasTextIds := by
  intro node member
  obtain rfl := List.mem_singleton.mp member
  exact ⟨"stay", rfl⟩

/-- A pause with one route, of one member. -/
def pauseMembers (key : Scalar) (value : Value) : Members :=
  [(.str "template", .str "Wait"), (.str "routing", .list [.map [(key, value)]])]

theorem hasTextKeys_pauseMembers {key : Scalar} {value : Value} :
    HasTextKeys (pauseMembers key value) := by
  intro other isKey
  simp only [Keyed.keys, pauseMembers, List.map_cons, List.map_nil, List.mem_cons, List.not_mem_nil,
    or_false] at isKey
  exact isKey.elim (fun same => ⟨_, same⟩) fun same => ⟨_, same⟩

def pauseAfter (after : Option Scalar) (key : Scalar) (value : Value) : Request where
  after
  hint := some "pause"
  node := .map (pauseMembers key value)
  allowCycles := false
  requirePlaceholder := false

/-- Behind a step that leads to itself a pause is planned, though not applied. -/
theorem isSettled_make_strayed : strayed.HasTextIds ∧
    Draft.HasPlainKeys (pauseMembers (.str "out") (.bool true)) ∧
    IsSettled strayed (pauseAfter (some "stay") (.str "out") (.bool true)) none := by
  have plain : Draft.HasPlainKeys (pauseMembers (.str "out") (.bool true)) := by
    refine ⟨hasTextKeys_pauseMembers, fun items isRouting entry isEntry key isKey => ?_⟩
    cases isRouting
    cases List.mem_singleton.mp isEntry
    cases List.mem_singleton.mp isKey
    rfl
  refine ⟨hasTextIds_strayed, plain, isSettled_make hasTextIds_strayed ?_ ?_ ?_⟩
  · rintro members ⟨⟩
    exact plain
  · rintro id ⟨⟩
    rfl
  · intro none
    cases none

/-- What is no key, and integers that are too long to be shown, end the planning. -/
theorem not_isSettled_make_strayed : strayed.HasTextIds ∧
    (∀ key value, HasTextKeys (pauseMembers key value)) ∧
    ¬ IsSettled strayed (pauseAfter none (.str "out") (.bool true)) none ∧
    ¬ IsSettled strayed (pauseAfter (some (.int writableBound)) (.str "out") (.bool true)) none ∧
    ¬ IsSettled strayed (pauseAfter (some "stay") (.int writableBound) (.bool true)) none := by
  have keyless : make strayed (pauseAfter none (.str "out") (.bool true)) none =
      .error (.failure (.misshapen .noKey)) := by decide +kernel
  have longAnchor : make strayed
      (pauseAfter (some (.int writableBound)) (.str "out") (.bool true)) none =
      .error (.failure (.invalid .longInteger)) := by decide +kernel
  have longKey : make strayed (pauseAfter (some "stay") (.int writableBound) (.bool true)) none =
      .error (.failure (.invalid .longInteger)) := by decide +kernel
  exact ⟨hasTextIds_strayed, fun key value => hasTextKeys_pauseMembers,
    not_isSettled_of_failure keyless, not_isSettled_of_failure longAnchor,
    not_isSettled_of_failure longKey⟩

end Plan

end StepFlow
