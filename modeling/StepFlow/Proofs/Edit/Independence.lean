import Mathlib.Data.List.Basic
import StepFlow.Proofs.Edit.Applicability
import StepFlow.Proofs.Edit.Takeover
import StepFlow.Proofs.Edit.Validity

/-! Independent edits. Main statement: two insertions at different anchors or on different sides of
one anchor, two changes of different nodes, or an insertion and a change away from its anchor come
to the same graph in either order, or fail in either order. -/
namespace StepFlow

open Outcome

/-- Whether the scalars are equal. What is no number is equal to nothing, not even to itself. -/
def Scalar.equals (a b : Scalar) : Bool :=
  a.same b && !b.isNaN

/-! ### Rewriting nodes in their places -/

/-- Nodes are replaced at one place only, by nodes of the same id or of new ids. -/
structure IsConfined (expand : Node → List Node) (isPlace isNew : Scalar → Prop) : Prop where
  elsewhere : ∀ node, ¬ isPlace node.id → expand node = [node]
  keeps : ∀ node, ∃ other ∈ expand node, other.id = node.id
  ids : ∀ node, ∀ other ∈ expand node, other.id = node.id ∨ isNew other.id

theorem flatMap_comm_of_kept {f g : Node → List Node} {node : Node} (kept : g node = [node])
    (spared : ∀ other ∈ f node, g other = [other]) :
    (f node).flatMap g = (g node).flatMap f := by
  rw [List.flatMap_congr spared, List.flatMap_singleton', kept, List.flatMap_singleton]

theorem IsConfined.comm {f g : Node → List Node} {isPlace isPlace' isNew isNew' : Scalar → Prop}
    {node : Node} (first : IsConfined f isPlace isNew) (second : IsConfined g isPlace' isNew')
    (apart : ¬ (isPlace node.id ∧ isPlace' node.id)) (new : ∀ id, isNew id → ¬ isPlace' id)
    (new' : ∀ id, isNew' id → ¬ isPlace id) : (f node).flatMap g = (g node).flatMap f := by
  by_cases here : isPlace node.id
  · have away : ¬ isPlace' node.id := fun there => apart ⟨here, there⟩
    refine flatMap_comm_of_kept (second.elsewhere node away) fun other member => ?_
    rcases first.ids node other member with same | isNew
    · exact second.elsewhere other (same ▸ away)
    · exact second.elsewhere other (new _ isNew)
  · refine (flatMap_comm_of_kept (first.elsewhere node here) fun other member => ?_).symm
    rcases second.ids node other member with same | isNew
    · exact first.elsewhere other (same ▸ here)
    · exact first.elsewhere other (new' _ isNew)

namespace Graph

variable {graph middle middle' result result' : Graph} {expand expand' : Node → List Node}
  {redirect redirect' : Value → Value} {plan other : Plan} {id : Scalar} {node : Node}
  {overrides : Overrides}

/-- The graph with every node and every target of an entrypoint replaced in its place. -/
structure Rewritten (graph : Graph) (expand : Node → List Node) (redirect : Value → Value)
    (result : Graph) : Prop where
  header : result.header = graph.header
  entrypoints : result.entrypoints = graph.entrypoints.map fun entry => (entry.1, redirect entry.2)
  nodes : result.nodes = graph.nodes.flatMap expand

theorem Rewritten.unique (first : graph.Rewritten expand redirect middle)
    (second : middle.Rewritten expand' redirect' result)
    (first' : graph.Rewritten expand' redirect' middle')
    (second' : middle'.Rewritten expand redirect result')
    (nodes : ∀ node ∈ graph.nodes, (expand node).flatMap expand' = (expand' node).flatMap expand)
    (targets : ∀ value, redirect' (redirect value) = redirect (redirect' value)) :
    result = result' := by
  apply Graph.ext
  · rw [second.header, first.header, second'.header, first'.header]
  · rw [second.entrypoints, first.entrypoints, second'.entrypoints, first'.entrypoints]
    simp [targets]
  · rw [second.nodes, first.nodes, second'.nodes, first'.nodes, List.flatMap_assoc,
      List.flatMap_assoc, List.flatMap_congr nodes]

/-- Every node of the result has the id of an old one or a new id. -/
theorem Rewritten.mem_keys {isPlace isNew : Scalar → Prop}
    (rewritten : graph.Rewritten expand redirect result) (confined : IsConfined expand isPlace isNew)
    {key : Identity} (member : key ∈ result.keys) :
    key ∈ graph.keys ∨ ∃ id, isNew id ∧ key = id.identity := by
  obtain ⟨node, isNode, rfl⟩ := Graph.mem_keys.mp member
  rw [rewritten.nodes] at isNode
  obtain ⟨old, isOld, placed⟩ := List.mem_flatMap.mp isNode
  rcases confined.ids old node placed with same | isNew
  · exact .inl (Graph.mem_keys.mpr ⟨old, isOld, by rw [Node.key, Node.key, same]⟩)
  · exact .inr ⟨node.id, isNew, rfl⟩

theorem Rewritten.mem_keys_of_mem {isPlace isNew : Scalar → Prop}
    (rewritten : graph.Rewritten expand redirect result) (confined : IsConfined expand isPlace isNew)
    {key : Identity} (known : key ∈ graph.keys) : key ∈ result.keys := by
  obtain ⟨node, isNode, rfl⟩ := Graph.mem_keys.mp known
  obtain ⟨other, placed, same⟩ := confined.keeps node
  refine Graph.mem_keys.mpr ⟨other, ?_, by rw [Node.key, Node.key, same]⟩
  rw [rewritten.nodes]
  exact List.mem_flatMap.mpr ⟨node, isNode, placed⟩

/-- Away from its place a change leaves every node where it can be found. -/
theorem Rewritten.node?_iff {isPlace isNew : Scalar → Prop}
    (rewritten : graph.Rewritten expand redirect result) (confined : IsConfined expand isPlace isNew)
    (away : ∀ node ∈ graph.nodes, node.key = id.identity → ¬ isPlace node.id)
    (old : ∀ new, isNew new → new.identity ≠ id.identity) :
    result.node? id = some node ↔ graph.node? id = some node := by
  have stays {node : Node} (found : graph.node? id = some node) : result.node? id = some node := by
    obtain ⟨isNode, sameKey⟩ := node?_eq_some_iff.mp found
    refine node?_eq_some_iff.mpr ⟨?_, sameKey⟩
    rw [rewritten.nodes, List.mem_flatMap]
    exact ⟨node, isNode, by simp [confined.elsewhere node (away node isNode sameKey)]⟩
  refine ⟨fun found => ?_, stays⟩
  obtain ⟨isNode, sameKey⟩ := node?_eq_some_iff.mp found
  rcases rewritten.mem_keys confined (key_mem_keys isNode) with known | ⟨new, isNew, same⟩
  · obtain ⟨there, isThere, itsKey⟩ := Graph.mem_keys.mp known
    have foundThere := node?_eq_some_iff.mpr ⟨isThere, itsKey.trans sameKey⟩
    rwa [← Option.some.inj ((stays foundThere).symm.trans found)]
  · exact absurd (same.symm.trans sameKey) (old new isNew)

end Graph

/-! ### Insertions -/

/-- Puts nodes around the one with the anchor's id; there is one such node at most. -/
theorem insertBeside_eq_flatMap {before : Bool} {anchor : Scalar} {new : Node} {nodes : List Node}
    (distinct : (nodes.map Node.key).Nodup) : insertBeside before anchor new nodes =
      nodes.flatMap fun node =>
        if node.id.same anchor then (if before then [new, node] else [node, new]) else [node] := by
  induction nodes with
  | nil => rfl
  | cons first rest ih =>
    simp only [List.map_cons, List.nodup_cons] at distinct
    unfold insertBeside
    rw [List.flatMap_cons]
    split
    · rename_i here
      have others : ∀ node ∈ rest, (if node.id.same anchor then
          (if before then [new, node] else [node, new]) else [node]) = [node] := by
        intro node member
        refine if_neg fun there => distinct.1 (List.mem_map.mpr ⟨node, member, ?_⟩)
        exact (Scalar.same_iff.mp there).trans (Scalar.same_iff.mp here).symm
      rw [List.flatMap_congr others, List.flatMap_singleton']
      cases before <;> rfl
    · rw [ih distinct.2, List.singleton_append]

namespace Plan

variable {plan other : Plan} {graph : Graph} {node : Node}

/-- Whether the plan inserts next to the id. -/
def isAt (plan : Plan) (id : Scalar) : Bool :=
  id.equals plan.anchor

/-- What becomes of a node. -/
def expand (plan : Plan) (node : Node) : List Node :=
  if plan.isAt node.id then
    if plan.precedesEntry then [plan.placed, node]
    else [node.withRouting [.toNode plan.node.id], plan.placed]
  else [node]

/-- What becomes of the target of an entrypoint. -/
def redirect (plan : Plan) (target : Value) : Value :=
  if plan.precedesEntry && !plan.anchor.isNaN && target.denotes plan.anchor then .scalar plan.node.id
  else target

/-- The routes of the anchor allow that a node follows it. -/
def IsOpen (plan : Plan) : Prop :=
  plan.anchor.isNaN = true ∨ plan.precedesEntry = true ∨
    plan.priorRouting.any (closesCycle plan.allowCycles plan.anchor) = false

/-- The anchor is a node, and the new node is none. -/
structure Fits (plan : Plan) (graph : Graph) : Prop where
  fresh : plan.node.key ∉ graph.keys
  known : graph.hasNode plan.anchor = true

theorem isConfined_expand : IsConfined plan.expand (plan.isAt · = true) (· = plan.node.id) where
  elsewhere node away := if_neg away
  keeps node := by
    unfold expand
    split
    · split
      · exact ⟨node, by simp, rfl⟩
      · exact ⟨node.withRouting [.toNode plan.node.id], by simp, rfl⟩
    · exact ⟨node, by simp, rfl⟩
  ids node other member := by
    unfold expand at member
    split at member
    · split at member <;> simp only [List.mem_cons, List.not_mem_nil, or_false] at member
      · rcases member with rfl | rfl
        · exact .inr placed_id
        · exact .inl rfl
      · rcases member with rfl | rfl
        · exact .inl rfl
        · exact .inr placed_id
    · rw [List.mem_singleton.mp member]
      exact .inl rfl

theorem Fits.not_isAt (fits : plan.Fits graph) {id : Scalar} (new : id.identity ∉ graph.keys) :
    ¬ plan.isAt id = true := by
  intro here
  simp only [isAt, Scalar.equals, Bool.and_eq_true, Scalar.same_iff] at here
  exact new (here.1 ▸ Graph.hasNode_iff.mp fits.known)

/-- Next to one anchor, a node in front and a node behind do not meet. -/
theorem expand_comm_of_side (front : plan.precedesEntry = true) (behind : other.precedesEntry = false)
    (here : plan.isAt node.id = true) (here' : other.isAt node.id = true)
    (new : ¬ plan.isAt other.node.id = true) (new' : ¬ other.isAt plan.node.id = true) :
    (plan.expand node).flatMap other.expand = (other.expand node).flatMap plan.expand := by
  have inFront (node : Node) (here : plan.isAt node.id = true) :
      plan.expand node = [plan.placed, node] := by rw [expand, if_pos here, if_pos front]
  have behindIt : other.expand node = [node.withRouting [.toNode other.node.id], other.placed] := by
    rw [expand, if_pos here', if_neg (by simp [behind])]
  have spared : other.expand plan.placed = [plan.placed] :=
    isConfined_expand.elsewhere _ (by rwa [placed_id])
  have spared' : plan.expand other.placed = [other.placed] :=
    isConfined_expand.elsewhere _ (by rwa [placed_id])
  have moved := inFront (node.withRouting [.toNode other.node.id]) here
  rw [inFront node here, behindIt]
  simp [spared, spared', behindIt, moved]

end Plan

namespace Graph

variable {graph middle result : Graph} {plan other : Plan} {catalog : Option Catalog}

theorem Inserted.rewritten (nonempty : graph.nodes ≠ []) (inserted : Inserted graph plan result) :
    graph.Rewritten plan.expand plan.redirect result := by
  cases inserted with
  | first empty => exact absurd empty nonempty
  | nowhere known isNaN =>
    have stays : plan.expand = fun node => [node] := by
      funext node
      simp [Plan.expand, Plan.isAt, Scalar.equals, isNaN]
    have leads : plan.redirect = fun target => target := by
      funext target
      simp [Plan.redirect, isNaN]
    exact ⟨rfl, by simp [leads], by rw [stays, List.flatMap_singleton']⟩
  | before fresh known equal front =>
    refine ⟨rfl, ?_, ?_⟩
    · simp [insertBefore, retarget, Plan.redirect, front, equal, insertNode]
    · have isPlaced : plan.placed = plan.node.withRouting [.toNode plan.anchor] := if_pos front
      refine (insertBeside_eq_flatMap graph.ids_distinct).trans (List.flatMap_congr fun node _ => ?_)
      simp [Plan.expand, Plan.isAt, Scalar.equals, equal, front, isPlaced]
  | after fresh known equal behind acyclic =>
    refine ⟨rfl, ?_, ?_⟩
    · simp [insertAfter, Plan.redirect, behind, insertNode, reroute, mapNodes]
    · have isPlaced : plan.placed = plan.node := if_neg (by simp [behind])
      refine (insertBeside_eq_flatMap (graph.reroute _ _).ids_distinct).trans ?_
      rw [show (graph.reroute plan.anchor [.toNode plan.node.id]).nodes = graph.nodes.map _ from rfl,
        List.flatMap_map]
      refine List.flatMap_congr fun node _ => ?_
      by_cases here : node.id.same plan.anchor = true <;>
        simp [Plan.expand, Plan.isAt, Scalar.equals, equal, behind, isPlaced, here]

theorem rewritten_of_apply (known : graph.hasNode plan.anchor = true)
    (applied : graph.apply plan = .ok result) :
    graph.Rewritten plan.expand plan.redirect result :=
  (apply_eq_ok_iff.mp applied).2.rewritten (nodes_ne_nil known)

theorem exists_apply_iff (fits : plan.Fits graph) :
    (∃ result, graph.apply plan = .ok result) ↔ plan.IsOpen := by
  simp only [apply_eq_ok_iff]
  constructor
  · rintro ⟨result, -, inserted⟩
    cases inserted with
    | first empty => exact absurd empty (nodes_ne_nil fits.known)
    | nowhere _ isNaN => exact .inl isNaN
    | before _ _ _ front => exact .inr (.inl front)
    | after _ _ _ _ acyclic => exact .inr (.inr acyclic)
  · intro isOpen
    cases equal : plan.anchor.isNaN with
    | true => exact ⟨_, fits.fresh, .nowhere fits.known equal⟩
    | false =>
      cases side : plan.precedesEntry with
      | true => exact ⟨_, fits.fresh, .before fits.fresh fits.known equal side⟩
      | false =>
        have acyclic := (isOpen.resolve_left (by simp [equal])).resolve_left (by simp [side])
        exact ⟨_, fits.fresh, .after fits.fresh fits.known equal side acyclic⟩

end Graph

/-! ### Changes -/

namespace Overrides

variable {overrides : Overrides} {id : Scalar} {node new : Node}

/-- The node with the overrides. -/
def revised (overrides : Overrides) (id : Scalar) (node : Node) : Except Failure Node := do
  let kind ← (node.kind.override id overrides).mapError .ofFault
  let routing ← ((overrides.routing.map (RoutingOverride.resolve id)).getD (.ok node.routing))
  return { node with kind, routing }

/-- What becomes of a node. -/
def expand (overrides : Overrides) (id : Scalar) (node : Node) : List Node :=
  [if node.id.same id then (overrides.revised id node).toOption.getD node else node]

theorem revised_eq_ok_iff : overrides.revised id node = .ok new ↔ ∃ kind routing,
    node.kind.override id overrides = .ok kind ∧
      (overrides.routing.map (RoutingOverride.resolve id)).getD (.ok node.routing) = .ok routing ∧
      new = { node with kind, routing } := by
  simp only [revised, bind_eq_ok, pure_eq_ok, mapError_eq_ok]
  constructor
  · rintro ⟨kind, overridden, routing, resolved, rfl⟩
    exact ⟨kind, routing, overridden, resolved, rfl⟩
  · rintro ⟨kind, routing, overridden, resolved, rfl⟩
    exact ⟨kind, overridden, routing, resolved, rfl⟩

theorem id_of_mem_expand (member : new ∈ overrides.expand id node) : new.id = node.id := by
  rw [List.mem_singleton.mp member]
  split
  · cases revised : overrides.revised id node with
    | error failure => rfl
    | ok new =>
      obtain ⟨kind, routing, -, -, rfl⟩ := revised_eq_ok_iff.mp revised
      rfl
  · rfl

theorem isConfined_expand :
    IsConfined (overrides.expand id) (·.same id = true) (fun _ => False) where
  elsewhere node away := by rw [expand, if_neg away]
  keeps node := ⟨_, .head _, id_of_mem_expand (.head _)⟩
  ids node other member := .inl (id_of_mem_expand member)

end Overrides

namespace Graph

variable {graph middle result : Graph} {id : Scalar} {overrides : Overrides} {plan : Plan}

theorem exists_update_iff : (∃ result, graph.update id overrides = .ok result) ↔
    ∃ node, graph.node? id = some node ∧ ∃ new, overrides.revised id node = .ok new := by
  simp only [update_eq_ok_iff, Overrides.revised_eq_ok_iff]
  constructor
  · rintro ⟨-, node, kind, routing, found, overridden, resolved, -⟩
    exact ⟨node, found, _, kind, routing, overridden, resolved, rfl⟩
  · rintro ⟨node, found, -, kind, routing, overridden, resolved, -⟩
    exact ⟨_, node, kind, routing, found, overridden, resolved, rfl⟩

theorem rewritten_of_update (updated : graph.update id overrides = .ok result) :
    graph.Rewritten (overrides.expand id) (fun target => target) result := by
  obtain ⟨node, kind, routing, found, overridden, resolved, rfl⟩ := update_eq_ok_iff.mp updated
  obtain ⟨isNode, sameKey⟩ := node?_eq_some_iff.mp found
  have revised := Overrides.revised_eq_ok_iff.mpr ⟨kind, routing, overridden, resolved, rfl⟩
  refine ⟨rfl, by simp [revise, mapNodes], ?_⟩
  simp only [revise, mapNodes]
  rw [List.map_eq_flatMap]
  refine List.flatMap_congr fun other isOther => ?_
  by_cases here : other.id.same id = true
  · obtain rfl : other = node :=
      eq_of_key_eq isOther isNode ((Scalar.same_iff.mp here).trans sameKey.symm)
    rw [Overrides.expand, if_pos here, if_pos here, revised]
    rfl
  · rw [Overrides.expand, if_neg here, if_neg here]

end Graph

/-! ### Either order -/

namespace Plan

variable {plan other : Plan} {graph middle : Graph} {id : Scalar}

/-- The plan is what some request comes to on the graph. -/
def IsMadeOn (plan : Plan) (graph : Graph) : Prop :=
  ∃ request catalog, make graph request catalog = .ok plan

/-- The insertions are at different anchors or on different sides. -/
def IsApart (plan other : Plan) : Prop :=
  plan.anchor.equals other.anchor = false ∨ plan.precedesEntry ≠ other.precedesEntry

theorem IsMadeOn.fits (made : plan.IsMadeOn graph) (nonempty : graph.nodes ≠ []) : plan.Fits graph := by
  obtain ⟨request, catalog, made⟩ := made
  refine ⟨fun known => ?_, (anchor_of_make made).resolve_right fun ⟨empty, _⟩ => nonempty empty⟩
  have fresh := fresh_of_make made
  rw [Graph.hasNode_iff.mpr known] at fresh
  contradiction

theorem Fits.ne (fits : plan.Fits graph) (known : graph.hasNode id = true) :
    plan.node.id.identity ≠ id.identity := by
  intro same
  have isKey := Graph.hasNode_iff.mp known
  rw [← same] at isKey
  exact fits.fresh isKey

/-- An insertion leaves room for another one with a different id. -/
theorem Fits.apply (fits : plan.Fits graph) (fits' : other.Fits graph)
    (differ : plan.node.key ≠ other.node.key) (applied : graph.apply plan = .ok middle) :
    other.Fits middle := by
  have rewritten := Graph.rewritten_of_apply fits.known applied
  refine ⟨fun member => ?_, ?_⟩
  · rcases rewritten.mem_keys isConfined_expand member with known | ⟨_, rfl, same⟩
    · exact fits'.fresh known
    · exact differ same.symm
  · exact Graph.hasNode_iff.mpr
      (rewritten.mem_keys_of_mem isConfined_expand (Graph.hasNode_iff.mp fits'.known))

theorem isAt_congr {a b : Scalar} (same : a.identity = b.identity) : plan.isAt a = plan.isAt b := by
  simp only [isAt, Scalar.equals, Scalar.same, same]

/-- Where both insert they insert on different sides. -/
theorem IsApart.side (apart : plan.IsApart other) (here : plan.isAt id = true)
    (here' : other.isAt id = true) : plan.precedesEntry ≠ other.precedesEntry := by
  refine apart.resolve_left fun differ => ?_
  simp only [isAt, Scalar.equals, Bool.and_eq_true] at here here'
  have same := Scalar.same_trans ((Scalar.same_comm _ _).trans here.1) here'.1
  simp [Scalar.equals, same, here'.2] at differ

theorem expand_comm {node : Node} (fits : plan.Fits graph) (fits' : other.Fits graph)
    (apart : plan.IsApart other) :
    (plan.expand node).flatMap other.expand = (other.expand node).flatMap plan.expand := by
  have away := fits.not_isAt fits'.fresh
  have away' := fits'.not_isAt fits.fresh
  by_cases both : plan.isAt node.id = true ∧ other.isAt node.id = true
  · have sides := apart.side both.1 both.2
    cases front : plan.precedesEntry with
    | true =>
      have behind : other.precedesEntry = false := by simpa [front] using sides.symm
      exact expand_comm_of_side front behind both.1 both.2 away away'
    | false =>
      have front' : other.precedesEntry = true := by simpa [front] using sides.symm
      exact (expand_comm_of_side front' front both.2 both.1 away' away).symm
  · exact isConfined_expand.comm isConfined_expand both (fun _ same => same ▸ away')
      fun _ same => same ▸ away

theorem redirect_of_not_isAt (away : ¬ plan.isAt id = true) :
    plan.redirect (.scalar id) = .scalar id := by
  refine if_neg fun here => away ?_
  simp only [Bool.and_eq_true, Value.denotes] at here
  simp only [isAt, Scalar.equals, Bool.and_eq_true]
  exact ⟨here.2, here.1.2⟩

theorem redirect_cases (target : Value) : plan.redirect target = target ∨
    plan.redirect target = .scalar plan.node.id ∧ plan.precedesEntry = true ∧
      ∃ id, target = .scalar id ∧ plan.isAt id = true := by
  unfold redirect
  split
  · rename_i here
    simp only [Bool.and_eq_true, Value.denotes_iff] at here
    obtain ⟨⟨front, equal⟩, id, isTarget, same⟩ := here
    refine .inr ⟨rfl, front, id, isTarget, ?_⟩
    simp only [isAt, Scalar.equals, Bool.and_eq_true]
    exact ⟨Scalar.same_iff.mpr same, equal⟩
  · exact .inl rfl

theorem redirect_comm (fits : plan.Fits graph) (fits' : other.Fits graph)
    (apart : plan.IsApart other) (target : Value) :
    other.redirect (plan.redirect target) = plan.redirect (other.redirect target) := by
  have away := fits.not_isAt fits'.fresh
  have away' := fits'.not_isAt fits.fresh
  rcases plan.redirect_cases target with stays | ⟨moves, front, id, isTarget, here⟩ <;>
    rcases other.redirect_cases target with stays' | ⟨moves', front', id', isTarget', here'⟩
  · rw [stays, stays', stays]
  · rw [stays, moves', redirect_of_not_isAt away]
  · rw [moves, stays', moves, redirect_of_not_isAt away']
  · obtain rfl : id = id' := Value.scalar.inj (isTarget.symm.trans isTarget')
    exact absurd (front.trans front'.symm) (apart.side here here')

end Plan

namespace Graph

variable {graph middle : Graph} {plan other : Plan} {x y : Scalar} {overrides overrides' : Overrides}

theorem concur_apply_apply (made : plan.IsMadeOn graph) (made' : other.IsMadeOn graph)
    (nonempty : graph.nodes ≠ []) (differ : plan.node.id ≠ other.node.id)
    (apart : plan.IsApart other) :
    Concur (graph.apply plan >>= fun middle => middle.apply other)
      (graph.apply other >>= fun middle => middle.apply plan) := by
  have fits := made.fits nonempty
  have fits' := made'.fits nonempty
  have keys : plan.node.key ≠ other.node.key := by
    obtain ⟨request, catalog, made⟩ := made'
    obtain ⟨⟨name, named⟩, -⟩ := Plan.node_of_make made
    rw [Node.key, Node.key, named, Ne, ← Scalar.same_iff, Scalar.same_str, ← named]
    exact differ
  refine Concur.bind (fun middle first => ?_) (fun middle first => ?_)
    fun middle middle' result result' first first' second second' => ?_
  · rw [exists_apply_iff (fits.apply fits' keys first), exists_apply_iff fits']
  · rw [exists_apply_iff (fits'.apply fits keys.symm first), exists_apply_iff fits]
  · have room := fits.apply fits' keys first
    have room' := fits'.apply fits keys.symm first'
    exact (rewritten_of_apply fits.known first).unique (rewritten_of_apply room.known second)
      (rewritten_of_apply fits'.known first') (rewritten_of_apply room'.known second')
      (fun _ _ => Plan.expand_comm fits fits' apart) (Plan.redirect_comm fits fits' apart)

/-- A change leaves other nodes as they are. -/
theorem node?_of_update (differ : x.same y = false) (updated : graph.update x overrides = .ok middle)
    {node : Node} : middle.node? y = some node ↔ graph.node? y = some node := by
  refine (rewritten_of_update updated).node?_iff Overrides.isConfined_expand (fun node _ same here => ?_)
    nofun
  rw [Scalar.same_iff] at here
  have same := Scalar.same_iff.mpr (here.symm.trans same)
  rw [differ] at same
  contradiction

theorem concur_update_update (differ : x.same y = false) :
    Concur (graph.update x overrides >>= fun middle => middle.update y overrides')
      (graph.update y overrides' >>= fun middle => middle.update x overrides) := by
  have differ' : y.same x = false := (Scalar.same_comm y x).trans differ
  refine Concur.bind (fun middle first => ?_) (fun middle first => ?_)
    fun middle middle' result result' first first' second second' => ?_
  · simp only [exists_update_iff, node?_of_update differ first]
  · simp only [exists_update_iff, node?_of_update differ' first]
  · refine (rewritten_of_update first).unique (rewritten_of_update second)
      (rewritten_of_update first') (rewritten_of_update second') (fun node _ => ?_) fun _ => rfl
    refine Overrides.isConfined_expand.comm Overrides.isConfined_expand (fun ⟨here, there⟩ => ?_)
      nofun nofun
    have same := Scalar.same_trans ((Scalar.same_comm _ _).trans here) there
    rw [differ] at same
    contradiction

section

variable (fits : plan.Fits graph) (known : graph.hasNode y = true)
  (apart : y.equals plan.anchor = false)

include fits known apart

/-- An insertion leaves the nodes as they are that are not its anchor. -/
theorem node?_of_apply (applied : graph.apply plan = .ok middle) {node : Node} :
    middle.node? y = some node ↔ graph.node? y = some node := by
  refine (rewritten_of_apply fits.known applied).node?_iff Plan.isConfined_expand
    (fun node _ same => ?_) fun _ new same => ?_
  · rw [Plan.isAt_congr same, Plan.isAt, apart]
    exact Bool.false_ne_true
  · subst new
    exact fits.ne known same

theorem concur_apply_update :
    Concur ((graph.apply plan).mapError Failure.ofFault >>= fun middle => middle.update y overrides)
      (graph.update y overrides >>= fun middle => (middle.apply plan).mapError Failure.ofFault) := by
  have room {middle : Graph} (updated : graph.update y overrides = .ok middle) : plan.Fits middle := by
    have rewritten := rewritten_of_update updated
    refine ⟨fun member => ?_, hasNode_iff.mpr
      (rewritten.mem_keys_of_mem Overrides.isConfined_expand (hasNode_iff.mp fits.known))⟩
    rcases rewritten.mem_keys Overrides.isConfined_expand member with known | ⟨_, new, -⟩
    · exact fits.fresh known
    · exact new
  refine Concur.bind (fun middle first => ?_) (fun middle first => ?_)
    fun middle middle' result result' first first' second second' => ?_
  · have applied := mapError_eq_ok.mp first
    simp only [exists_update_iff, node?_of_apply fits known apart applied]
  · simp only [mapError_eq_ok]
    rw [exists_apply_iff fits, exists_apply_iff (room first)]
  · have applied := mapError_eq_ok.mp first
    have applied' := mapError_eq_ok.mp second'
    refine (rewritten_of_apply fits.known applied).unique (rewritten_of_update second)
      (rewritten_of_update first') (rewritten_of_apply (room first').known applied')
      (fun node _ => ?_) fun _ => rfl
    refine Plan.isConfined_expand.comm Overrides.isConfined_expand (fun ⟨here, there⟩ => ?_)
      (fun _ new same => ?_) nofun
    · rw [Plan.isAt_congr (Scalar.same_iff.mp there), Plan.isAt, apart] at here
      contradiction
    · subst new
      exact fits.ne known (Scalar.same_iff.mp same)

end

/-- Independent edits concur in either order. -/
theorem independent_edits_concur (graph : Graph) :
    (∀ plan other, plan.IsMadeOn graph → other.IsMadeOn graph → graph.nodes ≠ [] →
      plan.node.id ≠ other.node.id → plan.IsApart other →
      Concur (graph.apply plan >>= fun middle => middle.apply other)
        (graph.apply other >>= fun middle => middle.apply plan)) ∧
    (∀ x y overrides overrides', x.same y = false →
      Concur (graph.update x overrides >>= fun middle => middle.update y overrides')
        (graph.update y overrides' >>= fun middle => middle.update x overrides)) ∧
    (∀ plan y overrides, plan.IsMadeOn graph → graph.hasNode y = true →
      y.equals plan.anchor = false →
      Concur ((graph.apply plan).mapError Failure.ofFault >>= fun middle => middle.update y overrides)
        (graph.update y overrides >>= fun middle => (middle.apply plan).mapError Failure.ofFault)) :=
  ⟨fun _ _ made made' nonempty differ apart => concur_apply_apply made made' nonempty differ apart,
    fun _ _ _ _ differ => concur_update_update differ,
    fun _ _ _ made known apart =>
      concur_apply_update (made.fits (nodes_ne_nil known)) known apart⟩

/-- A step in front of the entry of the relay, or behind it. -/
def besideFirst (after : Option Scalar) (hint : String) : Request :=
  { pause with after, hint }

def openingPlan : Plan where
  anchor := "first"
  node := ⟨.str "opening", .template "wait", [.toNode "relay", .toNode "second"], []⟩
  priorRouting := [.toNode "relay", .toNode "second"]
  precedesEntry := true
  allowCycles := true

def interludePlan : Plan :=
  { openingPlan with
    node := { openingPlan.node with id := "interlude" }
    precedesEntry := false }

/-- A change to a node that answers and does nothing else. -/
def silenced : Overrides := ⟨none, none, some (.routes [.answer])⟩

theorem independent_edits_concur_relay :
    (openingPlan.IsMadeOn relay ∧ interludePlan.IsMadeOn relay ∧ openingPlan.IsApart interludePlan ∧
      Concur (relay.apply openingPlan >>= fun middle => middle.apply interludePlan)
        (relay.apply interludePlan >>= fun middle => middle.apply openingPlan)) ∧
    Concur (relay.update "relay" silenced >>= fun middle => middle.update "second" silenced)
      (relay.update "second" silenced >>= fun middle => middle.update "relay" silenced) ∧
    Concur ((relay.apply interludePlan).mapError Failure.ofFault >>= fun middle =>
        middle.update "relay" silenced)
      (relay.update "relay" silenced >>= fun middle =>
        (middle.apply interludePlan).mapError Failure.ofFault) := by
  obtain ⟨insertions, changes, both⟩ := independent_edits_concur relay
  have opening : openingPlan.IsMadeOn relay := ⟨besideFirst none "opening", none, by decide +kernel⟩
  have interlude : interludePlan.IsMadeOn relay :=
    ⟨besideFirst (some "first") "interlude", none, by decide +kernel⟩
  have apart : openingPlan.IsApart interludePlan := .inr (by decide)
  exact ⟨⟨opening, interlude, apart, insertions _ _ opening interlude (by decide) (by decide) apart⟩,
    changes _ _ _ _ (by decide), both _ _ _ interlude (by decide) (by decide)⟩

end Graph

end StepFlow
