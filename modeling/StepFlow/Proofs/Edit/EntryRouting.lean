import StepFlow.Proofs.Edit.Independence

/-! Two graphs that differ in the routes of the node at which they are entered. Main statement: a
step is planned in front of that node in both graphs or in neither, and the graphs that it leads to
differ in the same routes only. Those routes count in one case: where a draft takes them over and
gives none of its own, one of the graphs has to have some if the other has. -/
namespace StepFlow

open Outcome

/-- The nodes are the same, but for the routes where these are spared. -/
def Node.AgreesBut (isSpared : Scalar → Prop) (node other : Node) : Prop :=
  other = node ∨ isSpared node.id ∧ ∃ routing, other = node.withRouting routing

theorem Node.AgreesBut.id {isSpared : Scalar → Prop} {node other : Node}
    (agree : node.AgreesBut isSpared other) : other.id = node.id := by
  rcases agree with rfl | ⟨-, routing, rfl⟩ <;> rfl

theorem Node.AgreesBut.symm {isSpared : Scalar → Prop} {node other : Node}
    (agree : node.AgreesBut isSpared other) : other.AgreesBut isSpared node := by
  rcases agree with rfl | ⟨spared, routing, rfl⟩
  · exact .inl rfl
  · exact .inr ⟨spared, node.routing, rfl⟩

/-- The routes of the new node are to be those that it takes over, and no others. -/
def Request.OnlyTakesOver (request : Request) : Prop :=
  ∃ draft, Draft.ofValue? request.node = .ok draft ∧ draft.routing ≠ [] ∧
    ∀ route ∈ draft.routing, route.isPlaceholder = true

namespace Graph

/-- The graphs are the same, but for the routes of the nodes that are spared. -/
structure AgreesBut (isSpared : Scalar → Prop) (graph other : Graph) : Prop where
  header : other.header = graph.header
  entrypoints : other.entrypoints = graph.entrypoints
  nodes : List.Forall₂ (Node.AgreesBut isSpared) graph.nodes other.nodes

/-- The first entrypoint targets the id. -/
def StartsAt (graph : Graph) (id : Scalar) : Prop :=
  ∃ entry, graph.entry? = some entry ∧ entry.2.denotes id = true

/-- The flow is entered at a node without routes. -/
def IsEntryBare (graph : Graph) : Prop :=
  ∃ node ∈ graph.nodes, graph.StartsAt node.id ∧ node.routing = []

variable {graph other result result' : Graph} {isSpared : Scalar → Prop} {id : Scalar} {node : Node}
  {request : Request} {catalog : Option Catalog} {plan plan' : Plan}

/-! ### Graphs that agree -/

theorem AgreesBut.refl : graph.AgreesBut isSpared graph :=
  ⟨rfl, rfl, List.forall₂_same.mpr fun _ _ => .inl rfl⟩

theorem AgreesBut.symm (agree : graph.AgreesBut isSpared other) : other.AgreesBut isSpared graph where
  header := agree.header.symm
  entrypoints := agree.entrypoints.symm
  nodes := (agree.nodes.imp fun _ _ => Node.AgreesBut.symm).flip

theorem AgreesBut.ids (agree : graph.AgreesBut isSpared other) : other.ids = graph.ids := by
  have same : List.Forall₂ (· = ·) graph.ids other.ids :=
    List.forall₂_map_left_iff.mpr (List.forall₂_map_right_iff.mpr
      (agree.nodes.imp fun _ _ each => each.id.symm))
  rw [List.forall₂_eq_eq_eq] at same
  exact same.symm

theorem AgreesBut.hasNode (agree : graph.AgreesBut isSpared other) : other.hasNode id = graph.hasNode id := by
  have known (graph : Graph) : graph.hasNode id = graph.ids.any (·.same id) := by
    simp [Graph.hasNode, Graph.ids, Function.comp_def]
  rw [known, known, agree.ids]

theorem AgreesBut.startsAt (agree : graph.AgreesBut isSpared other) : other.StartsAt = graph.StartsAt := by
  funext id
  simp only [StartsAt, entry?, agree.entrypoints]

/-- Graphs without nodes that are spared are the same. -/
theorem AgreesBut.eq (agree : graph.AgreesBut isSpared other)
    (unspared : ∀ node ∈ graph.nodes, ¬ isSpared node.id) : other = graph := by
  have each := (List.forall₂_and_left _ _).mpr ⟨unspared, agree.nodes⟩
  have same : List.Forall₂ (· = ·) graph.nodes other.nodes :=
    each.imp fun _ _ ⟨unspared, either⟩ => (either.resolve_right fun spared => unspared spared.1).symm
  rw [List.forall₂_eq_eq_eq] at same
  exact Graph.ext agree.header agree.entrypoints same.symm

theorem AgreesBut.resolve (agree : graph.AgreesBut isSpared other) (after : Option Scalar) :
    Anchor.resolve other after = Anchor.resolve graph after := by
  unfold Anchor.resolve
  simp only [agree.hasNode, entry?, agree.entrypoints]
  have each := agree.nodes
  generalize graph.nodes = nodes at each ⊢
  generalize other.nodes = others at each ⊢
  cases each with
  | nil => rfl
  | cons first rest => simp only [first.id]

theorem not_startsAt_of_not_isEntry (unentered : ¬ Anchor.IsEntry graph) (member : node ∈ graph.nodes) :
    ¬ graph.StartsAt node.id := by
  rintro ⟨entry, first, denotes⟩
  obtain ⟨target, isTarget, same⟩ := Value.denotes_iff.mp denotes
  refine unentered ⟨entry, first, ?_⟩
  rw [isTarget]
  exact hasNode_iff_exists.mpr ⟨node, member, same.symm⟩

/-! ### Plans in front of the entry -/

theorem exists_resolve_of_isEntry (entered : Anchor.IsEntry graph) : ∃ target,
    Anchor.resolve graph none = .ok ⟨target, true⟩ ∧ graph.StartsAt target ∧ graph.hasNode target = true := by
  obtain ⟨⟨name, target⟩, first, hasTarget⟩ := entered
  cases target with
  | scalar target =>
    have known : graph.hasNode target = true := hasTarget
    refine ⟨target, ?_, ⟨_, first, Scalar.same_refl target⟩, known⟩
    unfold Anchor.resolve
    split
    · contradiction
    · split
      · exact absurd ‹_› (nodes_ne_nil known)
      · simp [first, known]
  | _ => cases hasTarget

/-- At the entry, a draft takes over nothing if the entry has no routes. -/
theorem anchorRoutes_eq_nil_iff {anchor : Anchor} (starts : graph.StartsAt anchor.id)
    (known : graph.hasNode anchor.id = true) :
    Plan.anchorRoutes graph anchor = [] ↔ graph.IsEntryBare := by
  obtain ⟨entry, first, denotes⟩ := starts
  obtain ⟨target, isTarget, same⟩ := Value.denotes_iff.mp denotes
  obtain ⟨node, isNode, sameKey⟩ := hasNode_iff_exists.mp known
  have found : graph.node? anchor.id = some node := node?_eq_some_iff.mpr ⟨isNode, sameKey⟩
  simp only [Plan.anchorRoutes, found, Option.map_some, Option.getD_some]
  constructor
  · intro bare
    exact ⟨node, isNode, ⟨entry, first, Value.denotes_iff.mpr ⟨target, isTarget, same.trans sameKey.symm⟩⟩,
      bare⟩
  · rintro ⟨other, isOther, ⟨entry', first', denotes'⟩, bare⟩
    obtain rfl := Option.some.inj (first.symm.trans first')
    obtain ⟨target', isTarget', same'⟩ := Value.denotes_iff.mp denotes'
    obtain rfl := Value.scalar.inj (isTarget.symm.trans isTarget')
    obtain rfl := eq_of_key_eq isOther isNode ((same'.symm.trans same).trans sameKey.symm)
    exact bare

theorem flatMap_expandRoute_eq_nil_iff {provided fallback : List Route} :
    provided.flatMap (expandRoute fallback) = [] ↔
      provided = [] ∨ (∀ route ∈ provided, route.isPlaceholder = true) ∧ fallback = [] := by
  have each {route : Route} : expandRoute fallback route = [] ↔ route.isPlaceholder = true ∧ fallback = [] := by
    unfold expandRoute
    split <;> simp_all
  simp only [List.flatMap_eq_nil_iff, each]
  constructor
  · intro empty
    cases provided with
    | nil => exact .inl rfl
    | cons route rest => exact .inr ⟨fun route member => (empty route member).1, (empty route (.head _)).2⟩
  · rintro (rfl | ⟨marks, bare⟩)
    · nofun
    · exact fun route member => ⟨marks route member, bare⟩

/-- In front of the entry a cycle does no harm, so what is left to ask of the routes is that there
are some. -/
theorem exists_make_iff {target : Scalar} (resolved : Anchor.resolve graph request.after = .ok ⟨target, true⟩)
    (starts : graph.StartsAt target) (known : graph.hasNode target = true) :
    (∃ plan, Plan.make graph request catalog = .ok plan) ↔ ∃ draft kind,
      Plan.describe request.node = .ok (draft, kind) ∧ Plan.hintFindings request.hint = [] ∧
        Plan.catalogFindings (.ok (draft, kind)) catalog = [] ∧
        (∃ id, Plan.newId graph (request.hint <|> draft.operation) ⟨target, true⟩ = .ok id) ∧
        (request.requirePlaceholder = true → draft.routing.any Route.isPlaceholder = true) ∧
        draft.routing ≠ [] ∧
        ((∀ route ∈ draft.routing, route.isPlaceholder = true) → ¬ graph.IsEntryBare) := by
  have some := isEmpty_eq_false known
  have bare : Plan.anchorRoutes graph ⟨target, true⟩ = [] ↔ graph.IsEntryBare :=
    anchorRoutes_eq_nil_iff starts known
  constructor
  · rintro ⟨plan, made⟩
    obtain ⟨anchor, draft, kind, resolved', described, unhinted, uncatalogued, assembled⟩ :=
      Plan.make_eq_ok_iff.mp made
    obtain rfl := Except.ok.inj (resolved.symm.trans resolved')
    obtain ⟨id, routes, named, routed, -⟩ := Plan.assemble_eq_ok_iff.mp assembled
    obtain ⟨expanded, missing⟩ := Plan.routing_eq_ok_iff.mp routed
    obtain ⟨rfl, -, given⟩ := expandRoutes_eq_ok_iff.mp expanded
    rw [flatMap_expandRoute_eq_nil_iff, bare, some] at missing
    refine ⟨draft, kind, described, unhinted, uncatalogued, ⟨id, named⟩, by simpa [some] using given, ?_, ?_⟩
    · exact fun empty => Bool.false_ne_true (missing (.inl empty))
    · exact fun marks isBare => Bool.false_ne_true (missing (.inr ⟨marks, isBare⟩))
  · rintro ⟨draft, kind, described, unhinted, uncatalogued, ⟨id, named⟩, given, filled, unbare⟩
    have remaining : draft.routing.flatMap (expandRoute (Plan.anchorRoutes graph ⟨target, true⟩)) ≠ [] := by
      rw [Ne, flatMap_expandRoute_eq_nil_iff, bare]
      exact fun nothing => nothing.elim filled fun ⟨marks, isBare⟩ => unbare marks isBare
    have routed : Plan.routing graph request ⟨target, true⟩ draft id = .ok _ :=
      Plan.routing_eq_ok_iff.mpr ⟨expandRoutes_eq_ok_iff.mpr ⟨rfl, fun route _ => by simp [closesCycle],
        fun required => given (by simpa [some] using required)⟩, fun nothing => absurd nothing remaining⟩
    exact ⟨_, Plan.make_eq_ok_iff.mpr ⟨_, draft, kind, resolved, described, unhinted, uncatalogued,
      Plan.assemble_eq_ok_iff.mpr ⟨id, _, named, routed, rfl⟩⟩⟩

/-- Plans for graphs that agree are the same, but for the routes that they take over. -/
theorem AgreesBut.place_eq (agree : graph.AgreesBut isSpared other)
    (made : Plan.make graph request catalog = .ok plan)
    (made' : Plan.make other request catalog = .ok plan') :
    plan'.place = plan.place ∧ plan'.node = plan.node.withRouting plan'.node.routing := by
  obtain ⟨draft, parts⟩ := Plan.exists_isMadeOf made
  obtain ⟨draft', parts'⟩ := Plan.exists_isMadeOf made'
  have resolved := (agree.resolve request.after).symm.trans parts'.resolved
  have place : plan'.place = plan.place := Except.ok.inj (resolved.symm.trans parts.resolved)
  obtain rfl : draft' = draft := Except.ok.inj (parts'.drafted.symm.trans parts.drafted)
  have kind : plan'.node.kind = plan.node.kind := Except.ok.inj (parts'.kinded.symm.trans parts.kinded)
  have id : plan'.node.id = plan.node.id := by
    obtain ⟨id, named, isId⟩ := parts.named
    obtain ⟨id', named', isId'⟩ := parts'.named
    rw [place, Plan.newId, agree.ids] at named'
    obtain rfl : id' = id := Except.ok.inj (named'.symm.trans named)
    rw [isId, isId']
  refine ⟨place, ?_⟩
  have extras : plan'.node.extras = plan.node.extras := parts'.plain.trans parts.plain.symm
  cases new : plan'.node
  rw [new] at id kind extras
  simp_all [Node.withRouting]

/-! ### Results -/

/-- The old nodes are left alone, and the new one leads to the anchor and to nothing else. -/
structure Prefaced (graph : Graph) (plan : Plan) (result : Graph) : Prop where
  kept : ∀ node ∈ graph.nodes, node ∈ result.nodes
  lone : ∀ node ∈ result.nodes, node ∈ graph.nodes ∨ node = plan.node.withRouting [.toNode plan.anchor]

theorem Rewritten.prefaced (rewritten : graph.Rewritten plan.expand plan.redirect result)
    (front : plan.precedesEntry = true) : graph.Prefaced plan result where
  kept node member := by
    rw [rewritten.nodes]
    refine List.mem_flatMap.mpr ⟨node, member, ?_⟩
    unfold Plan.expand
    split <;> simp
  lone node member := by
    rw [rewritten.nodes] at member
    obtain ⟨old, isOld, placed⟩ := List.mem_flatMap.mp member
    unfold Plan.expand at placed
    split at placed
    · simp only [List.mem_cons, List.not_mem_nil, or_false] at placed
      rcases placed with rfl | rfl
      · exact .inr (if_pos front)
      · exact .inl isOld
    · exact .inl (List.mem_singleton.mp placed ▸ isOld)

/-- The same is put around nodes that agree. -/
theorem AgreesBut.of_rewritten {expand expand' : Node → List Node} {redirect : Value → Value}
    (agree : graph.AgreesBut isSpared other) (rewritten : graph.Rewritten expand redirect result)
    (rewritten' : other.Rewritten expand' redirect result')
    (each : ∀ node node', node.AgreesBut isSpared node' →
      List.Forall₂ (Node.AgreesBut isSpared) (expand node) (expand' node')) :
    result.AgreesBut isSpared result' where
  header := by rw [rewritten'.header, rewritten.header, agree.header]
  entrypoints := by rw [rewritten'.entrypoints, rewritten.entrypoints, agree.entrypoints]
  nodes := by
    rw [rewritten.nodes, rewritten'.nodes]
    exact List.rel_flatMap agree.nodes fun node node' related => each node node' related

/-- What is put in front of a node does not come from its routes. -/
theorem AgreesBut.apply (agree : graph.AgreesBut isSpared other) (nonempty : graph.nodes ≠ [])
    (front : plan.precedesEntry = true) (made : Plan.make graph request catalog = .ok plan)
    (made' : Plan.make other request catalog = .ok plan') : ∃ result result',
      graph.apply plan = .ok result ∧ other.apply plan' = .ok result' ∧
        result.AgreesBut isSpared result' ∧ graph.Prefaced plan result := by
  obtain ⟨place, sameNode⟩ := agree.place_eq made made'
  have anchor : plan'.anchor = plan.anchor := congrArg Anchor.id place
  have front' : plan'.precedesEntry = true := (congrArg Anchor.precedesEntry place).trans front
  have nonempty' : other.nodes ≠ [] := fun empty => by
    have each := agree.nodes
    rw [empty, List.forall₂_nil_right_iff] at each
    exact nonempty each
  have fits := Plan.IsMadeOn.fits ⟨request, catalog, made⟩ nonempty
  have fits' := Plan.IsMadeOn.fits ⟨request, catalog, made'⟩ nonempty'
  obtain ⟨result, applied⟩ := (exists_apply_iff fits).mpr (.inr (.inl front))
  obtain ⟨result', applied'⟩ := (exists_apply_iff fits').mpr (.inr (.inl front'))
  have rewritten := rewritten_of_apply fits.known applied
  have rewritten' := rewritten_of_apply fits'.known applied'
  have placed : plan'.placed = plan.placed := by
    rw [Plan.placed, Plan.placed, if_pos front, if_pos front', sameNode, anchor]
    rfl
  have redirect : plan'.redirect = plan.redirect := by
    funext target
    rw [Plan.redirect, Plan.redirect, front, front', anchor, sameNode]
    rfl
  refine ⟨result, result', applied, applied', ?_, rewritten.prefaced front⟩
  refine agree.of_rewritten rewritten (redirect ▸ rewritten') fun node node' related => ?_
  simp only [Plan.expand, Plan.isAt, front, front', anchor, placed, related.id, if_true]
  split
  · exact .cons (.inl rfl) (.cons related .nil)
  · exact .cons related .nil

/-- In front of the entry a step is planned whatever the routes of the entry are, unless it takes
them over, and gives none of its own, where there are none to take over in one of the graphs. -/
theorem make_agrees_but_entry (agree : graph.AgreesBut graph.StartsAt other) (first : request.after = none)
    (alike : request.OnlyTakesOver → (graph.IsEntryBare ↔ other.IsEntryBare)) :
    ((∃ plan, Plan.make graph request catalog = .ok plan) ↔
      ∃ plan, Plan.make other request catalog = .ok plan) ∧
    ∀ plan plan', Plan.make graph request catalog = .ok plan →
      Plan.make other request catalog = .ok plan' →
      Option.Rel (AgreesBut graph.StartsAt) (graph.apply plan).toOption (other.apply plan').toOption ∧
      (Anchor.IsEntry graph → ∃ result, graph.apply plan = .ok result ∧ graph.Prefaced plan result) := by
  by_cases entered : Anchor.IsEntry graph
  · obtain ⟨target, resolved, starts, known⟩ := exists_resolve_of_isEntry entered
    rw [← first] at resolved
    have resolved' := (agree.resolve request.after).trans resolved
    constructor
    · rw [exists_make_iff resolved starts known,
        exists_make_iff resolved' (agree.startsAt ▸ starts) (agree.hasNode.trans known)]
      refine exists_congr fun draft => exists_congr fun kind => and_congr_right fun described => ?_
      have sameId (hint : Option String) :
          Plan.newId other hint ⟨target, true⟩ = Plan.newId graph hint ⟨target, true⟩ := by
        rw [Plan.newId, Plan.newId, agree.ids]
      simp only [sameId]
      refine and_congr_right fun _ => and_congr_right fun _ => and_congr_right fun _ =>
        and_congr_right fun _ => and_congr_right fun filled => forall_congr' fun marks => not_congr ?_
      exact alike ⟨draft, (Plan.describe_eq_ok_iff.mp described).1, filled, marks⟩
    · intro plan plan' made made'
      have front : plan.precedesEntry = true := by
        obtain ⟨draft, parts⟩ := Plan.exists_isMadeOf made
        exact congrArg Anchor.precedesEntry (Except.ok.inj (parts.resolved.symm.trans resolved))
      obtain ⟨result, result', applied, applied', agree', prefaced⟩ :=
        agree.apply (nodes_ne_nil known) front made made'
      rw [applied, applied']
      exact ⟨.some agree', fun _ => ⟨result, rfl, prefaced⟩⟩
  · -- there is no such node, so the graphs are one and the same
    obtain rfl := agree.eq fun node => not_startsAt_of_not_isEntry entered
    refine ⟨.rfl, fun plan plan' made made' => ⟨?_, fun isEntry => absurd isEntry entered⟩⟩
    obtain rfl := Except.ok.inj (made.symm.trans made')
    cases other.apply plan with
    | ok result => exact .some .refl
    | error fault => exact .none

/-- A flow of one step. -/
def salute (routing : List Route) : Graph where
  header := ⟨.str "salute", .str "messaging", .null, .null, [], [], .null, .null⟩
  entrypoints := [(.str defaultEntrypoint, .str "say")]
  nodes := [⟨.str "say", .template "Hi", routing, []⟩]
  names_distinct := by decide
  ids_distinct := by simp

theorem agreesBut_salute (routing routing' : List Route) :
    (salute routing).AgreesBut (salute routing).StartsAt (salute routing') where
  header := rfl
  entrypoints := rfl
  nodes := .cons (.inr ⟨⟨_, rfl, rfl⟩, routing', rfl⟩) .nil

/-- A pause that takes over the routes of the step at which the flow is entered. -/
def foreword : Request where
  after := none
  hint := some "intro"
  node := .map [(.str "template", .str "wait"),
    (.str "routing", .list [.map [(.str "to", .str placeholderTarget)]])]
  allowCycles := false
  requirePlaceholder := true

def forewordPlan (routing : List Route) : Plan where
  anchor := "say"
  node := ⟨.str "intro", .template "wait", routing, []⟩
  priorRouting := routing
  precedesEntry := true
  allowCycles := false

/-- It makes no difference whether the step leads to itself or out of the flow. -/
theorem make_agrees_but_entry_salute :
    (salute [.toNode "say"]).AgreesBut (salute [.toNode "say"]).StartsAt (salute [.leave]) ∧
    foreword.after = none ∧
    (foreword.OnlyTakesOver → ((salute [.toNode "say"]).IsEntryBare ↔ (salute [.leave]).IsEntryBare)) ∧
    Plan.make (salute [.toNode "say"]) foreword none = .ok (forewordPlan [.toNode "say"]) ∧
    (∃ plan, Plan.make (salute [.leave]) foreword none = .ok plan) ∧
    Option.Rel (AgreesBut (salute [.toNode "say"]).StartsAt)
      ((salute [.toNode "say"]).apply (forewordPlan [.toNode "say"])).toOption
      ((salute [.leave]).apply (forewordPlan [.leave])).toOption := by
  have filled {route : Route} : ¬ (salute [route]).IsEntryBare := by
    rintro ⟨node, isNode, -, bare⟩
    rw [List.mem_singleton.mp isNode] at bare
    cases bare
  have alike : foreword.OnlyTakesOver →
      ((salute [.toNode "say"]).IsEntryBare ↔ (salute [.leave]).IsEntryBare) :=
    fun _ => iff_of_false filled filled
  obtain ⟨same, related⟩ := make_agrees_but_entry (agreesBut_salute _ _) rfl alike
  have made : Plan.make (salute [.toNode "say"]) foreword none = .ok (forewordPlan [.toNode "say"]) := by
    decide +kernel
  have made' : Plan.make (salute [.leave]) foreword none = .ok (forewordPlan [.leave]) := by decide +kernel
  exact ⟨agreesBut_salute _ _, rfl, alike, made, same.mp ⟨_, made⟩, (related _ _ made made').1⟩

/-- It does make one whether the step leads anywhere. -/
theorem not_make_agrees_but_entry_salute :
    (salute []).AgreesBut (salute []).StartsAt (salute [.leave]) ∧ foreword.after = none ∧
    ¬ ((∃ plan, Plan.make (salute []) foreword none = .ok plan) ↔
      ∃ plan, Plan.make (salute [.leave]) foreword none = .ok plan) := by
  refine ⟨agreesBut_salute _ _, rfl, fun same => ?_⟩
  have refused : Plan.make (salute []) foreword none = .error (.findings [⟨.routingMissing,
      "node 'intro' would have no routing; an inserted step needs at least one route",
      some "nodes.intro.routing"⟩]) := by decide +kernel
  obtain ⟨plan, made⟩ := same.mpr ⟨forewordPlan [.leave], by decide +kernel⟩
  cases refused.symm.trans made

end Graph

end StepFlow
