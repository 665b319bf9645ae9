import StepFlow.Proofs.Edit.Deletion
import StepFlow.Proofs.Edit.Insertion

/-! What deleting a node changes. Main statement: a deletion is refused for a node that is none, or
for its predecessors where several are not allowed, and these are listed; otherwise the other nodes
stay as they are but for the routes to the deleted one. -/
namespace StepFlow

/-- Sublists are settled by their members where no member occurs twice. -/
theorem eq_of_sublist {α : Type} {l xs ys : List α} (distinct : l.Nodup) (first : xs.Sublist l)
    (second : ys.Sublist l) (same : ∀ x, x ∈ xs ↔ x ∈ ys) : xs = ys := by
  induction l generalizing xs ys with
  | nil => rw [List.sublist_nil.mp first, List.sublist_nil.mp second]
  | cons a l ih =>
    obtain ⟨fresh, distinct⟩ := List.nodup_cons.mp distinct
    cases first with
    | cons _ first =>
      cases second with
      | cons _ second => exact ih distinct first second same
      | cons_cons _ second => exact absurd (first.subset ((same a).mpr (.head _))) fresh
    | cons_cons _ first =>
      cases second with
      | cons _ second => exact absurd (second.subset ((same a).mp (.head _))) fresh
      | @cons_cons ys _ _ second =>
        have apart {zs : List α} (below : zs.Sublist l) {x : α} (member : x ∈ zs) : x ≠ a := by
          rintro rfl
          exact fresh (below.subset member)
        refine congrArg (a :: ·) (ih distinct first second fun x => ⟨fun member => ?_, fun member => ?_⟩)
        · exact (List.mem_cons.mp ((same x).mp (.tail _ member))).resolve_left (apart first member)
        · exact (List.mem_cons.mp ((same x).mpr (.tail _ member))).resolve_left (apart second member)

theorem one_lt_length_iff {α : Type} {l : List α} (distinct : l.Nodup) :
    1 < l.length ↔ ∃ x ∈ l, ∃ y ∈ l, x ≠ y := by
  constructor
  · intro several
    obtain ⟨x, y, rest, rfl⟩ : ∃ x y rest, l = x :: y :: rest := by
      match l, several with
      | x :: y :: rest, _ => exact ⟨x, y, rest, rfl⟩
    exact ⟨x, by simp, y, by simp, fun same => (List.nodup_cons.mp distinct).1 (by simp [same])⟩
  · rintro ⟨x, isMember, y, isMember', differ⟩
    refine Nat.lt_of_not_le fun few => differ ?_
    match l, few with
    | [z], _ => rw [List.mem_singleton.mp isMember, List.mem_singleton.mp isMember']

/-- The node is another one and has a route to the id. -/
def Node.Precedes (node : Node) (id : Scalar) : Prop :=
  node.key ≠ id.identity ∧ ∃ route ∈ node.routing, route.leadsTo id = true

/-- What a deleted node hands on to its predecessors: its routes without its own loops, and nothing
if these are only ways out. -/
inductive HandsOn (id : Scalar) (own : List Route) : List Route → Prop where
  | onward : (∃ route ∈ own, route.leadsTo id = false ∧ route.isTerminal = false) →
      HandsOn id own (own.filter fun route => !route.leadsTo id)
  | nothing : (∀ route ∈ own, route.leadsTo id = false → route.isTerminal = true) →
      HandsOn id own []

namespace Graph

/-- Two nodes at least lead to another one. -/
def IsFanIn (graph : Graph) (id : Scalar) : Prop :=
  ∃ first ∈ graph.nodes, ∃ second ∈ graph.nodes, first ≠ second ∧ first.Precedes id ∧ second.Precedes id

/-- The ids are those of the nodes that lead to another one, each once and in the order of nodes. -/
structure ListsPredecessors (graph : Graph) (id : Scalar) (names : List Scalar) : Prop where
  order : names.Sublist graph.ids
  once : names.Nodup
  all : ∀ name, name ∈ names ↔ ∃ node ∈ graph.nodes, node.id = name ∧ node.Precedes id

/-- The graph without a node. -/
structure Loses (graph : Graph) (id : Scalar) (strategy : Strategy) (result : Graph) : Prop where
  header : result.header = graph.header
  order : result.ids = graph.ids.filter fun other => !other.same id
  left : strategy = .removeOnly → ∀ node ∈ graph.nodes, node.key ≠ id.identity →
    result.node? node.id = some node
  spliced : strategy = .splice → ∃ deleted filling, graph.node? id = some deleted ∧
    HandsOn id deleted.routing filling ∧ ∀ node ∈ graph.nodes, node.key ≠ id.identity →
      ∃ routing, Substitutes (fun route => route.leadsTo id) filling node.routing routing ∧
        result.node? node.id = some (node.withRouting routing)
  severed : strategy = .splice → result.IsUnrouted id
  entrypoints : result.entrypoints = graph.entrypoints.map fun entry => (entry.1,
    if entry.2.denotes id then .scalar (result.ids.head?.getD (.str "")) else entry.2)

variable {graph : Graph} {id : Scalar} {node deleted : Node} {strategy : Strategy} {fanIn : FanIn}
  {names : List Scalar} {routing : List Route}

/-! ### Predecessors -/

theorem mem_filter_precedes : (node ∈ graph.nodes.filter fun node =>
      !node.id.same id && node.routing.any fun route => route.leadsTo id) ↔
    node ∈ graph.nodes ∧ node.Precedes id := by
  simp only [List.mem_filter, Bool.and_eq_true, Bool.not_eq_true', Bool.eq_false_iff, ne_eq,
    Scalar.same_iff, List.any_eq_true, Node.Precedes, Node.key]

theorem listsPredecessors_predecessors : graph.ListsPredecessors id (graph.predecessors id) where
  order := List.filter_sublist.map Node.id
  once := (graph.nodup_ids).sublist (List.filter_sublist.map Node.id)
  all name := by
    rw [predecessors, List.mem_map]
    simp only [mem_filter_precedes, and_comm, and_left_comm]

theorem ListsPredecessors.eq_predecessors (lists : graph.ListsPredecessors id names) :
    names = graph.predecessors id :=
  eq_of_sublist graph.nodup_ids lists.order listsPredecessors_predecessors.order fun name =>
    (lists.all name).trans (listsPredecessors_predecessors.all name).symm

theorem one_lt_length_predecessors_iff : 1 < (graph.predecessors id).length ↔ graph.IsFanIn id := by
  have distinct : graph.nodes.Nodup := List.Nodup.of_map _ graph.ids_distinct
  rw [predecessors, List.length_map, one_lt_length_iff (distinct.filter _)]
  simp only [mem_filter_precedes, IsFanIn]
  constructor
  · rintro ⟨first, ⟨isFirst, precedes⟩, second, ⟨isSecond, precedes'⟩, differ⟩
    exact ⟨first, isFirst, second, isSecond, differ, precedes, precedes'⟩
  · rintro ⟨first, isFirst, second, isSecond, differ, precedes, precedes'⟩
    exact ⟨first, ⟨isFirst, precedes⟩, second, ⟨isSecond, precedes'⟩, differ⟩

/-- A refusal can be reported where the ids are texts. -/
theorem fanInFailure_of_texts (texts : graph.HasTextIds) (known : graph.hasNode id = true) :
    fanInFailure id (graph.predecessors id) = .flow (.multiplePredecessors id (graph.predecessors id)) := by
  have named : ∀ name ∈ id :: graph.predecessors id, ∃ s, name = .str s := by
    intro name member
    rcases List.mem_cons.mp member with rfl | precedes
    · obtain ⟨node, isNode, rfl⟩ := texts.exists_id known
      exact texts node isNode
    · obtain ⟨node, isNode, rfl, -⟩ := (listsPredecessors_predecessors.all name).mp precedes
      exact texts node isNode
  have shown : (id :: graph.predecessors id).all Scalar.isWritable = true := by
    refine List.all_eq_true.mpr fun name member => ?_
    obtain ⟨s, rfl⟩ := named name member
    rfl
  unfold fanInFailure
  rw [if_pos]
  · exact if_pos shown
  · refine List.all_eq_true.mpr fun name member => ?_
    obtain ⟨s, rfl⟩ := named name (.tail _ member)
    rfl

/-! ### What is left -/

theorem ids_remove : (graph.remove id).ids = graph.ids.filter fun other => !other.same id := by
  rw [ids, ids, List.filter_map]
  rfl

theorem ids_repair : (graph.repair id routing strategy).ids = graph.ids := by
  cases strategy with
  | splice => exact ids_spliceAll _
  | removeOnly => rfl

theorem handsOn_replacement (own : List Route) : HandsOn id own (replacement id own) := by
  simp only [replacement]
  split
  · rename_i terminal
    refine .nothing fun route member away => ?_
    exact List.all_eq_true.mp terminal route (List.mem_filter.mpr ⟨member, by simp [away]⟩)
  · rename_i onward
    obtain ⟨route, member, notTerminal⟩ := List.all_eq_false.mp (Bool.eq_false_iff.mpr onward)
    obtain ⟨isOwn, away⟩ := List.mem_filter.mp member
    exact .onward ⟨route, isOwn, by simpa using away, by simpa using notTerminal⟩

theorem isUnrouted_spliceOut : Graph.IsUnrouted (graph.spliceOut id routing) id := by
  intro node member route isRoute
  obtain ⟨old, -, -, rfl⟩ := mem_nodes_spliceOut.mp member
  rcases mem_spliceRoutes.mp isRoute with ⟨-, away⟩ | ⟨placed, -⟩
  · exact away
  · exact (mem_of_mem_replacement placed).2

theorem loses_remove_repair (found : graph.node? id = some deleted) :
    graph.Loses id strategy ((graph.repair id deleted.routing strategy).remove id) where
  header := by cases strategy <;> rfl
  order := by rw [ids_remove, ids_repair]
  left := by
    rintro rfl node member differ
    exact node?_id (mem_nodes_remove.mpr ⟨member, differ⟩)
  spliced := by
    rintro rfl
    refine ⟨deleted, _, found, handsOn_replacement deleted.routing, fun node member differ => ?_⟩
    refine ⟨_, substitutes_spliceRoutes, node?_eq_some_iff.mpr ⟨mem_nodes_spliceOut.mpr ?_, rfl⟩⟩
    exact ⟨node, member, differ, rfl⟩
  severed := by
    rintro rfl
    exact isUnrouted_spliceOut
  entrypoints := by cases strategy <;> exact entrypoints_remove

/-! ### Outcomes -/

theorem delete_of_unknown (unknown : graph.hasNode id = false) :
    graph.delete id strategy fanIn = .error (.ofFault (.nodeNotFound id)) := by
  simp only [delete, node?_eq_none_iff.mpr unknown]

theorem delete_of_isFanIn (texts : graph.HasTextIds) (known : graph.hasNode id = true)
    (isFanIn : graph.IsFanIn id) : graph.delete id strategy .refuse =
      .error (.flow (.multiplePredecessors id (graph.predecessors id))) := by
  obtain ⟨node, isNode, sameKey⟩ := hasNode_iff_exists.mp known
  simp only [delete, node?_eq_some_iff.mpr ⟨isNode, sameKey⟩, texts.isNaN_eq_false known,
    one_lt_length_predecessors_iff.mpr isFanIn, fanInFailure_of_texts texts known, decide_true,
    Bool.and_self, Bool.false_eq_true, if_false, if_true]

theorem exists_delete (texts : graph.HasTextIds) (known : graph.hasNode id = true)
    (allowed : ¬ (fanIn = .refuse ∧ graph.IsFanIn id)) :
    ∃ result, graph.delete id strategy fanIn = .ok result ∧ graph.Loses id strategy result := by
  obtain ⟨node, isNode, sameKey⟩ := hasNode_iff_exists.mp known
  have found := node?_eq_some_iff.mpr ⟨isNode, sameKey⟩
  have few : (graph.predecessors id).length ≤ 1 ∨ fanIn = .spliceAll := by
    cases fanIn with
    | spliceAll => exact .inr rfl
    | refuse =>
      left
      rw [← Nat.not_lt, one_lt_length_predecessors_iff]
      exact fun isFanIn => allowed ⟨rfl, isFanIn⟩
  exact ⟨_, delete_eq_ok_iff.mpr ⟨node, found, .inr ⟨texts.isNaN_eq_false known, few, rfl⟩⟩,
    loses_remove_repair found⟩

/-- A node that is none is not found, one that several lead to is refused with their names, and any
other is deleted. -/
theorem delete_outcome (texts : graph.HasTextIds) :
    (graph.delete id strategy fanIn = .error (.ofFault (.nodeNotFound id)) ↔
      graph.hasNode id = false) ∧
    (∀ names, graph.delete id strategy fanIn = .error (.flow (.multiplePredecessors id names)) ↔
      graph.hasNode id = true ∧ fanIn = .refuse ∧ graph.IsFanIn id ∧ graph.ListsPredecessors id names) ∧
    (graph.hasNode id = true → ¬ (fanIn = .refuse ∧ graph.IsFanIn id) →
      ∃ result, graph.delete id strategy fanIn = .ok result ∧ graph.Loses id strategy result) := by
  have apart (names : List Scalar) :
      Failure.ofFault (.nodeNotFound id) ≠ .flow (.multiplePredecessors id names) := by
    unfold Failure.ofFault
    split <;> simp
  cases known : graph.hasNode id with
  | false =>
    rw [delete_of_unknown known]
    exact ⟨by simp, fun names => by simp [apart names], by simp⟩
  | true =>
    by_cases refused : fanIn = .refuse ∧ graph.IsFanIn id
    · obtain ⟨rfl, isFanIn⟩ := refused
      rw [delete_of_isFanIn texts known isFanIn]
      refine ⟨by simpa using (apart _).symm, fun names => ?_, fun _ allowed => absurd ⟨rfl, isFanIn⟩ allowed⟩
      constructor
      · rintro ⟨⟩
        exact ⟨rfl, rfl, isFanIn, listsPredecessors_predecessors⟩
      · rintro ⟨-, -, -, lists⟩
        rw [lists.eq_predecessors]
    · obtain ⟨result, deleted, loses⟩ := exists_delete texts known refused
      rw [deleted]
      exact ⟨by simp, fun names => by simpa using fun refuse isFanIn => absurd ⟨refuse, isFanIn⟩ refused,
        fun _ _ => ⟨result, rfl, loses⟩⟩

/-- The middle node of the relay is led to from both sides. It may go only if it is spliced into
both. -/
theorem delete_outcome_relay : relay.HasTextIds ∧
    relay.ListsPredecessors "relay" ["first", "second"] ∧
    ∃ result, relay.delete "relay" .splice .spliceAll = .ok result ∧
      relay.Loses "relay" .splice result := by
  have refused : relay.delete "relay" .splice .refuse =
      .error (.flow (.multiplePredecessors "relay" ["first", "second"])) := rfl
  have listed := ((delete_outcome hasTextIds_relay).2.1 _).mp refused
  exact ⟨hasTextIds_relay, listed.2.2.2, (delete_outcome hasTextIds_relay).2.2 listed.1 (by simp)⟩

end Graph

end StepFlow
