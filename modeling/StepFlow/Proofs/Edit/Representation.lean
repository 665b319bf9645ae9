import Mathlib.Logic.Relation
import StepFlow.Proofs.Document.Graphs
import StepFlow.Proofs.Edit.Closure
import StepFlow.Proofs.Edit.Drafting
import StepFlow.Proofs.Edit.Naming

/-! Graphs that documents can represent: read again, they come back as they were. Main statement:
from such a graph, edits lead only to such graphs, also by way of a graph without nodes. -/
namespace StepFlow

open Outcome Keyed

/-! ### New nodes -/

theorem Route.leadsByText_toNode {id : Scalar} (named : (Value.scalar id).IsGivenText) :
    (toNode id).LeadsByText := by
  obtain ⟨s, -, isText⟩ := named
  intro target isTarget
  exact ⟨s, (Option.some.inj isTarget).symm.trans (Value.scalar.inj isText)⟩

theorem Node.IsCanonical.withRouting {node : Node} {routing : List Route}
    (canonical : node.IsCanonical) (texts : ∀ route ∈ routing, route.LeadsByText) :
    (node.withRouting routing).IsCanonical :=
  ⟨canonical.kind, texts, canonical.extras⟩

namespace Plan

variable {graph : Graph} {request : Request} {catalog : Option Catalog} {plan : Plan}

/-- A new node is as reading would give it. -/
theorem isCanonical_of_make (canonical : ∀ node ∈ graph.nodes, node.IsCanonical)
    (made : make graph request catalog = .ok plan) : plan.node.IsCanonical := by
  have texts : ∀ route ∈ plan.node.routing, route.LeadsByText := by
    intro route isRoute
    rcases mem_routing_of_make made isRoute with ⟨draft, drafted, given⟩ | ⟨node, isNode, taken⟩
    · exact (Draft.of_ofValue? drafted).2.1 route given
    · exact (canonical node isNode).routing route taken
  obtain ⟨draft, parts⟩ := exists_isMadeOf made
  obtain ⟨valid, -, named⟩ := Draft.of_ofValue? parts.drafted
  refine ⟨Draft.isCanonical_of_kind valid named parts.kinded, texts, [], none, none, ?_⟩
  rw [Node.HasExtras, parts.plain]
  exact (ite_self _).symm

theorem isGivenText_of_make (made : make graph request catalog = .ok plan) :
    (Value.scalar plan.node.id).IsGivenText := by
  obtain ⟨draft, parts⟩ := exists_isMadeOf made
  obtain ⟨id, named, isId⟩ := parts.named
  refine ⟨id, ?_, congrArg Value.scalar isId⟩
  unfold newId at named
  split at named
  · cases named
    exact Ids.generate_ne_empty
  · split at named <;> cases named
    exact Ids.generate_ne_empty

end Plan

/-! ### Changed nodes -/

/-- Routes that are given ready-made have texts for their targets. -/
def Overrides.LeadByText (overrides : Overrides) : Prop :=
  ∀ routes, overrides.routing = some (.routes routes) → ∀ route ∈ routes, route.LeadsByText

theorem RoutingOverride.leadsByText_of_resolve {id : Scalar} {override : RoutingOverride}
    {routing : List Route} (resolved : override.resolve id = .ok routing)
    (ready : ∀ routes, override = .routes routes → ∀ route ∈ routes, route.LeadsByText) :
    ∀ route ∈ routing, route.LeadsByText := by
  unfold resolve at resolved
  split at resolved
  · cases resolved
    exact ready _ rfl
  · split at resolved
    · rename_i word _ lone spelled
      cases resolved
      intro route member target isTarget
      obtain rfl := List.mem_singleton.mp member
      have none : route.target = .none := by
        unfold overrideWord? at spelled
        split at spelled
        · cases spelled
          rfl
        · exact target_wordRoute? spelled
      rw [none] at isTarget
      cases isTarget
    · cases resolved
  · simp only [bind_eq_ok, atNode, mapError_eq_ok] at resolved
    obtain ⟨items, -, parsed⟩ := resolved
    exact leadsByText_of_parseRouteList parsed

namespace Kind

variable {kind changed : Kind} {id : Scalar} {overrides : Overrides}

theorem IsCanonical.override (canonical : kind.IsCanonical)
    (overridden : kind.override id overrides = .ok changed) :
    changed.IsCanonical ∧ changed.isComponent = kind.isComponent := by
  cases kind with
  | component key packAlias operation payload =>
    simp only [Kind.override] at overridden
    split at overridden
    · cases overridden
    rename_i named
    cases overridden
    -- without a new operation the old one still names the component
    refine ⟨⟨canonical.1, fun isExec => ?_⟩, rfl⟩
    cases given : overrides.operation with
    | none => exact canonical.2 isExec
    | some operation => simpa [given] using named
  | questions fields =>
    simp only [Kind.override] at overridden
    split at overridden <;> cases overridden
    exact ⟨trivial, rfl⟩
  | template text =>
    simp only [Kind.override] at overridden
    split at overridden <;> cases overridden
    exact ⟨trivial, rfl⟩
  | other key payload =>
    simp only [Kind.override] at overridden
    split at overridden <;> cases overridden
    exact ⟨canonical, rfl⟩

end Kind

namespace Graph

variable {graph result start : Graph} {plan : Plan} {id : Scalar}

theorem isCanonical_of_update {overrides : Overrides} (ready : overrides.LeadByText)
    (canonical : ∀ node ∈ graph.nodes, node.IsCanonical)
    (updated : graph.update id overrides = .ok result) :
    ∀ node ∈ result.nodes, node.IsCanonical := by
  obtain ⟨current, kind, routing, found, overridden, resolved, rfl⟩ := update_eq_ok_iff.mp updated
  obtain ⟨isNode, sameKey⟩ := node?_eq_some_iff.mp found
  have old := canonical current isNode
  obtain ⟨isKind, sameSort⟩ := old.kind.override overridden
  have texts : ∀ route ∈ routing, route.LeadsByText := by
    cases given : overrides.routing with
    | none =>
      rw [given] at resolved
      cases resolved
      exact old.routing
    | some override =>
      rw [given] at resolved
      exact RoutingOverride.leadsByText_of_resolve resolved fun routes same =>
        ready routes (given.trans (congrArg some same))
  intro node member
  obtain ⟨other, isOther, rfl⟩ := List.mem_map.mp member
  split
  · rename_i here
    obtain rfl := eq_of_key_eq isOther isNode ((Scalar.same_iff.mp here).trans sameKey.symm)
    obtain ⟨members, packAlias, operation, extras⟩ := old.extras
    exact ⟨isKind, texts, members, packAlias, operation, by rw [Node.HasExtras, sameSort]; exact extras⟩
  · exact canonical other isOther

/-! ### Entrypoints -/

/-- The names of entrypoints: distinct, and the default one first. -/
def HasFront (entries : Members) : Prop :=
  Distinct entries ∧ ∀ name ∈ (Keyed.keys entries).head?, name = .str defaultEntrypoint

/-- The targets of entrypoints: the first is written, the others are texts. -/
def Leads (entries : Members) : Prop :=
  ∃ first rest, entries = first :: rest ∧ first.2.isTruthy = true ∧
    ∀ entry ∈ rest, entry.2.IsGivenText

/-- The entrypoints with a new target in the place of an id. -/
def redirect (id new : Scalar) (entries : Members) : Members :=
  entries.map fun entry => (entry.1, if entry.2.denotes id then .scalar new else entry.2)

variable {entries others : Members} {new : Scalar}

theorem HasFront.of_keys_eq (front : HasFront entries)
    (same : Keyed.keys others = Keyed.keys entries) : HasFront others :=
  ⟨distinct_iff.mpr (same ▸ distinct_iff.mp front.1), same ▸ front.2⟩

theorem HasFront.redirect (front : HasFront entries) : HasFront (redirect id new entries) :=
  front.of_keys_eq (by simp [Graph.redirect, Keyed.keys, Function.comp_def])

theorem HasFront.startWith (front : HasFront graph.entrypoints) (new : Node) :
    HasFront (graph.startWith new).entrypoints ∧ (graph.startWith new).entrypoints ≠ [] := by
  unfold Graph.startWith
  split
  · exact ⟨⟨List.pairwise_singleton _ _, by simp [Keyed.keys]⟩, by simp⟩
  · rename_i some
    exact ⟨front.of_keys_eq (by simp [Keyed.keys, Function.comp_def]), by simpa using some⟩

theorem Leads.redirect (leads : Leads entries) (named : (Value.scalar new).IsGivenText) :
    Leads (redirect id new entries) := by
  obtain ⟨first, rest, rfl, truthy, texts⟩ := leads
  refine ⟨_, _, rfl, ?_, fun entry member => ?_⟩
  · simp only
    split
    · exact named.isTruthy
    · exact truthy
  · obtain ⟨old, isOld, rfl⟩ := List.mem_map.mp member
    simp only
    split
    · exact named
    · exact texts old isOld

theorem Leads.of_texts (nonempty : entries ≠ []) (texts : ∀ entry ∈ entries, entry.2.IsGivenText) :
    Leads entries := by
  obtain ⟨first, rest, rfl⟩ := List.exists_cons_of_ne_nil nonempty
  exact ⟨first, rest, rfl, (texts first (.head _)).isTruthy,
    fun entry member => texts entry (.tail _ member)⟩

/-! ### What edits do -/

/-- An edit that succeeds: a plan for the graph is applied to it, or one of its nodes is changed
or deleted. -/
inductive Edited (graph : Graph) : Graph → Prop where
  | insert {request : Request} {catalog : Option Catalog} {plan : Plan} {result : Graph} :
      Plan.make graph request catalog = .ok plan → graph.apply plan = .ok result →
      Edited graph result
  | update {id : Scalar} {overrides : Overrides} {result : Graph} : overrides.LeadByText →
      graph.update id overrides = .ok result → Edited graph result
  | delete {id : Scalar} {strategy : Strategy} {fanIn : FanIn} {result : Graph} :
      graph.delete id strategy fanIn = .ok result → Edited graph result

theorem header_of_edited (edited : graph.Edited result) : result.header = graph.header := by
  cases edited with
  | insert made applied =>
    obtain ⟨-, inserted⟩ := apply_eq_ok_iff.mp applied
    cases inserted <;> rfl
  | update ready updated =>
    obtain ⟨_, kind, routing, -, -, -, rfl⟩ := update_eq_ok_iff.mp updated
    rfl
  | @delete _ strategy _ _ deleted =>
    obtain ⟨_, -, ⟨-, rfl⟩ | ⟨-, -, rfl⟩⟩ := delete_eq_ok_iff.mp deleted
    · rfl
    · cases strategy <;> rfl

/-- The nodes are as reading gives them. Each is a new one, or an old one with another kind or other
routes. -/
structure Descends (graph result : Graph) : Prop where
  canonical : ∀ node ∈ result.nodes, node.IsCanonical
  origin : ∀ node ∈ result.nodes, ((Value.scalar node.id).IsGivenText ∧ node.extras = []) ∨
    ∃ old ∈ graph.nodes, node.id = old.id ∧ node.extras = old.extras

theorem isGivenText_of_hasNode (named : ∀ node ∈ graph.nodes, (Value.scalar node.id).IsGivenText)
    (known : graph.hasNode id = true) : (Value.scalar id).IsGivenText := by
  have texts : graph.HasTextIds := fun node isNode => (named node isNode).imp fun s text =>
    Value.scalar.inj text.2
  obtain ⟨node, isNode, rfl⟩ := texts.exists_id known
  exact named node isNode

theorem leadsByText_spliceRoutes {routes routing : List Route}
    (own : ∀ route ∈ routing, route.LeadsByText) (taken : ∀ route ∈ routes, route.LeadsByText) :
    ∀ route ∈ spliceRoutes id routes routing, route.LeadsByText := by
  intro route member
  rcases mem_spliceRoutes.mp member with ⟨isOwn, -⟩ | ⟨isTaken, -⟩
  · exact own route isOwn
  · exact taken route isTaken

section

variable (canonical : ∀ node ∈ graph.nodes, node.IsCanonical)

include canonical

theorem Descends.refl : graph.Descends graph :=
  ⟨canonical, fun node member => .inr ⟨node, member, rfl, rfl⟩⟩

theorem Descends.of_inserted (named : ∀ node ∈ graph.nodes, (Value.scalar node.id).IsGivenText)
    (isNew : plan.node.IsCanonical) (isName : (Value.scalar plan.node.id).IsGivenText)
    (plain : plan.node.extras = []) (inserted : Inserted graph plan result) :
    graph.Descends result := by
  cases inserted with
  | first =>
    refine ⟨fun node member => ?_, fun node member => .inl ?_⟩
    all_goals rw [List.mem_singleton.mp member]
    · exact isNew
    · exact ⟨isName, plain⟩
  | nowhere => exact .refl canonical
  | before fresh known =>
    have leads : ∀ route ∈ [Route.toNode plan.anchor], route.LeadsByText := fun route isRoute =>
      List.mem_singleton.mp isRoute ▸ Route.leadsByText_toNode (isGivenText_of_hasNode named known)
    refine ⟨fun node member => ?_, fun node member => ?_⟩ <;>
      rcases (mem_nodes_insertBefore fresh known).mp member with rfl | isOld
    · exact isNew.withRouting leads
    · exact canonical node isOld
    · exact .inl ⟨isName, plain⟩
    · exact .inr ⟨node, isOld, rfl, rfl⟩
  | after fresh known =>
    have leads : ∀ route ∈ [Route.toNode plan.node.id], route.LeadsByText := fun route isRoute =>
      List.mem_singleton.mp isRoute ▸ Route.leadsByText_toNode isName
    refine ⟨fun node member => ?_, fun node member => ?_⟩ <;>
      rcases (mem_nodes_insertAfter _ fresh known).mp member with rfl | ⟨old, isOld, rfl⟩
    · exact isNew
    · split
      · exact (canonical old isOld).withRouting leads
      · exact canonical old isOld
    · exact .inl ⟨isName, plain⟩
    · exact .inr ⟨old, isOld, by split <;> exact ⟨rfl, rfl⟩⟩

theorem Descends.of_update {overrides : Overrides} (ready : overrides.LeadByText)
    (updated : graph.update id overrides = .ok result) : graph.Descends result := by
  refine ⟨isCanonical_of_update ready canonical updated, fun node member => .inr ?_⟩
  obtain ⟨_, kind, routing, -, -, -, rfl⟩ := update_eq_ok_iff.mp updated
  obtain ⟨old, isOld, rfl⟩ := List.mem_map.mp member
  exact ⟨old, isOld, by split <;> exact ⟨rfl, rfl⟩⟩

theorem Descends.of_repair {deleted : Node} (isDeleted : deleted ∈ graph.nodes) (id : Scalar)
    (strategy : Strategy) : graph.Descends (graph.repair id deleted.routing strategy) := by
  cases strategy with
  | removeOnly => exact .refl canonical
  | splice =>
    have inherited : ∀ route ∈ replacement id deleted.routing, route.LeadsByText := fun route isRoute =>
      (canonical deleted isDeleted).routing route (mem_of_mem_replacement isRoute).1
    refine ⟨fun node member => ?_, fun node member => .inr ?_⟩ <;>
      obtain ⟨old, isOld, rfl⟩ := List.mem_map.mp member
    · have isCanonical := canonical old isOld
      exact isCanonical.withRouting (leadsByText_spliceRoutes isCanonical.routing inherited)
    · exact ⟨old, isOld, rfl, rfl⟩

theorem Descends.of_edited (named : ∀ node ∈ graph.nodes, (Value.scalar node.id).IsGivenText)
    (edited : graph.Edited result) : graph.Descends result := by
  cases edited with
  | insert made applied =>
    exact .of_inserted canonical named (Plan.isCanonical_of_make canonical made)
      (Plan.isGivenText_of_make made) (Plan.node_of_make made).2 (apply_eq_ok_iff.mp applied).2
  | update ready updated => exact .of_update canonical ready updated
  | @delete id strategy _ _ deleted =>
    obtain ⟨node, found, ⟨-, rfl⟩ | ⟨-, -, rfl⟩⟩ := delete_eq_ok_iff.mp deleted
    · exact .refl canonical
    · have repaired := Descends.of_repair canonical (node?_eq_some_iff.mp found).1 id strategy
      exact ⟨fun node member => repaired.canonical node (mem_nodes_remove.mp member).1,
        fun node member => repaired.origin node (mem_nodes_remove.mp member).1⟩

end

theorem Descends.named (descends : graph.Descends result)
    (named : ∀ node ∈ graph.nodes, (Value.scalar node.id).IsGivenText) :
    ∀ node ∈ result.nodes, (Value.scalar node.id).IsGivenText := by
  intro node member
  rcases descends.origin node member with ⟨isName, -⟩ | ⟨old, isOld, same, -⟩
  · exact isName
  · exact same ▸ named old isOld

/-- What edits make of entrypoints. Only in a graph that has lost its last node they may lead
nowhere. -/
inductive Reentered (graph result : Graph) : Prop where
  | kept : result.entrypoints = graph.entrypoints → (result.nodes ≠ [] → graph.nodes ≠ []) →
      Reentered graph result
  | redirected {id new : Scalar} : result.entrypoints = redirect id new graph.entrypoints →
      (Value.scalar new).str?.isSome = true →
      (result.nodes ≠ [] → graph.nodes ≠ [] ∧ (Value.scalar new).IsGivenText) →
      Reentered graph result
  | started {new : Node} : result.entrypoints = (graph.startWith new).entrypoints →
      (Value.scalar new.id).IsGivenText → Reentered graph result

theorem Reentered.of_remove {middle : Graph} (same : middle.entrypoints = graph.entrypoints)
    (stays : middle.nodes ≠ [] → graph.nodes ≠ [])
    (named : ∀ node ∈ middle.nodes, (Value.scalar node.id).IsGivenText) :
    graph.Reentered (middle.remove id) := by
  have kept {node : Node} (member : node ∈ (middle.remove id).nodes) : node ∈ middle.nodes :=
    (mem_nodes_remove.mp member).1
  have entrypoints : (middle.remove id).entrypoints =
      redirect id ((middle.remove id).ids.head?.getD nowhere) graph.entrypoints :=
    entrypoints_remove.trans (congrArg (redirect id _) same)
  cases nodes : (middle.remove id).nodes with
  | nil => exact .redirected entrypoints (by simp [ids, nodes, nowhere, Value.str?]) (absurd nodes)
  | cons first rest =>
    have isFirst : first ∈ (middle.remove id).nodes := by simp [nodes]
    -- ways to the deleted node go to the first one that is left, whose id is a text
    have fallback : (Value.scalar ((middle.remove id).ids.head?.getD nowhere)).IsGivenText := by
      simpa [ids, nodes] using named first (kept isFirst)
    exact .redirected entrypoints fallback.isText
      fun _ => ⟨stays (List.ne_nil_of_mem (kept isFirst)), fallback⟩

theorem Reentered.of_edited (canonical : ∀ node ∈ graph.nodes, node.IsCanonical)
    (named : ∀ node ∈ graph.nodes, (Value.scalar node.id).IsGivenText)
    (edited : graph.Edited result) : graph.Reentered result := by
  cases edited with
  | insert made applied =>
    have isName := Plan.isGivenText_of_make made
    obtain ⟨-, inserted⟩ := apply_eq_ok_iff.mp applied
    cases inserted with
    | first => exact .started rfl isName
    | nowhere => exact .kept rfl fun nonempty => nonempty
    | before fresh known => exact .redirected rfl isName.isText fun _ => ⟨nodes_ne_nil known, isName⟩
    | after fresh known => exact .kept rfl fun _ => nodes_ne_nil known
  | update ready updated =>
    obtain ⟨_, kind, routing, -, -, -, rfl⟩ := update_eq_ok_iff.mp updated
    exact .kept rfl fun nonempty empty => nonempty (by simp [revise, mapNodes, empty])
  | @delete id strategy _ _ deleted =>
    obtain ⟨node, found, ⟨-, rfl⟩ | ⟨-, -, rfl⟩⟩ := delete_eq_ok_iff.mp deleted
    · exact .kept rfl fun nonempty => nonempty
    · have repaired := Descends.of_repair canonical (node?_eq_some_iff.mp found).1 id strategy
      have same : (graph.repair id node.routing strategy).entrypoints = graph.entrypoints := by
        cases strategy <;> rfl
      exact .of_remove same (fun _ => nodes_ne_nil (hasNode_of_node? found)) (repaired.named named)

/-! ### What every edit keeps -/

/-- A graph whose document tells all of it, once it has a node. -/
structure IsReadable (graph : Graph) : Prop where
  canonical : ∀ node ∈ graph.nodes, node.IsCanonical
  named : ∀ node ∈ graph.nodes, (Value.scalar node.id).IsGivenText
  header : writtenHeader graph.header = graph.header
  front : HasFront graph.entrypoints
  leads : graph.nodes ≠ [] → Leads graph.entrypoints

theorem IsReadable.isEntered (readable : graph.IsReadable) (nonempty : graph.nodes ≠ []) :
    graph.IsEntered := by
  obtain ⟨first, rest, entrypoints, truthy, texts⟩ := readable.leads nonempty
  obtain ⟨distinct, default⟩ := readable.front
  refine ⟨distinct, .inr ⟨first.2, rest, ?_, truthy, texts⟩⟩
  have isDefault : first.1 = .str defaultEntrypoint := default first.1 (by simp [entrypoints, Keyed.keys])
  rw [entrypoints, ← isDefault]

/-- Written and read again, the graph comes back as it was, the order of its members included.
This leaves out graphs that come back in another order and count as equal where order does not. -/
def IsRepresentable (graph : Graph) : Prop :=
  ofDocument? (.map graph.toDocument) = .ok graph

theorem IsReadable.isRepresentable (readable : graph.IsReadable) (nonempty : graph.nodes ≠ []) :
    graph.IsRepresentable := by
  rw [IsRepresentable, ofDocument?_toDocument readable.canonical (readable.isEntered nonempty),
    readable.header]

/-- The document of a graph that comes back declares no target that leads nowhere. -/
theorem isEntered_of_toDocument (representable : graph.IsRepresentable)
    (named : ∀ node ∈ graph.nodes, (Value.scalar node.id).IsGivenText) : graph.IsEntered := by
  have names : NamesNodes graph.toDocument := by
    intro members given id value member
    cases get?_nodes_toDocument.symm.trans given
    obtain ⟨node, isNode, same⟩ := List.mem_map.mp member
    cases same
    exact named node isNode
  have leads : ∀ declared, declaredEntrypoints graph.toDocument = .ok declared →
      ∀ entry ∈ declared, entry.2.isTruthy = true := by
    intro declared isDeclared entry member
    cases declaredEntrypoints_toDocument.symm.trans isDeclared
    have kept := (List.mem_filter.mp member).2
    simp only [Bool.and_eq_true] at kept
    exact kept.2
  refine isEntered_of_ofDocument? representable names
    (fun declared isDeclared entry member _ => leads declared isDeclared entry member)
    fun noStart => ?_
  cases entrypoints : graph.entrypoints with
  | nil => rfl
  | cons first rest =>
    -- a first entrypoint that was read back has a target, which would have been written
    have member : first ∈ graph.entrypoints := by simp [entrypoints]
    rcases of_mem_resolveEntrypoints (entrypoints_of_ofDocument? representable) member with
      ⟨target, isStart, -⟩ | ⟨declared, given, isDeclared, isGiven, -, same⟩
    · cases noStart.symm.trans isStart
    · have truthy := same ▸ leads declared isDeclared given isGiven
      have written : given? graph.toDocument "start" = some first.2 := by
        simp [given?_start_toDocument, entry?, entrypoints, whenGiven_of_isTruthy truthy]
      rw [defaultTarget?, written] at noStart
      cases noStart

theorem isReadable_of_isRepresentable (representable : graph.IsRepresentable)
    (named : ∀ node ∈ graph.nodes, (Value.scalar node.id).IsGivenText) : graph.IsReadable := by
  have canonical := isCanonical_of_ofDocument? representable
  have entered : graph.IsEntered := isEntered_of_toDocument representable named
  have back := (ofDocument?_toDocument canonical entered).symm.trans representable
  have header := congrArg Graph.header (Except.ok.inj back)
  refine ⟨canonical, named, header, ⟨entered.distinct, ?_⟩, fun nonempty => ?_⟩
  · rcases entered.entrance with ⟨none, -⟩ | ⟨target, rest, entrypoints, -⟩
    · simp [none, Keyed.keys]
    · simp [entrypoints, Keyed.keys]
  · rcases entered.entrance with ⟨-, empty⟩ | ⟨target, rest, entrypoints, truthy, texts⟩
    · exact absurd empty nonempty
    · exact ⟨_, rest, entrypoints, truthy, texts⟩

theorem IsReadable.edited (readable : graph.IsReadable) (edited : graph.Edited result) :
    result.IsReadable := by
  have descends := Descends.of_edited readable.canonical readable.named edited
  have header : writtenHeader result.header = result.header := by
    rw [header_of_edited edited, readable.header]
  suffices entrance : HasFront result.entrypoints ∧ (result.nodes ≠ [] → Leads result.entrypoints) from
    ⟨descends.canonical, descends.named readable.named, header, entrance.1, entrance.2⟩
  cases Reentered.of_edited readable.canonical readable.named edited with
  | kept same stays =>
    rw [same]
    exact ⟨readable.front, fun nonempty => readable.leads (stays nonempty)⟩
  | redirected same _ stays =>
    rw [same]
    exact ⟨readable.front.redirect, fun nonempty =>
      (readable.leads (stays nonempty).1).redirect (stays nonempty).2⟩
  | @started new same isName =>
    have texts : ∀ entry ∈ (graph.startWith new).entrypoints, entry.2.IsGivenText := by
      intro entry member
      rwa [target_startWith member]
    obtain ⟨front, nonempty⟩ := readable.front.startWith new
    rw [same]
    exact ⟨front, fun _ => .of_texts nonempty texts⟩

/-! ### Runs -/

theorem IsReadable.reached (readable : start.IsReadable)
    (run : Relation.ReflTransGen Edited start graph) : graph.IsReadable := by
  induction run with
  | refl => exact readable
  | tail _ edited ih => exact ih.edited edited

/-- However a graph is edited, its document goes on to tell all of it while it has nodes. -/
theorem isRepresentable_reached (representable : start.IsRepresentable)
    (named : ∀ node ∈ start.nodes, (Value.scalar node.id).IsGivenText)
    (run : Relation.ReflTransGen Edited start graph) (nonempty : graph.nodes ≠ []) :
    graph.IsRepresentable :=
  ((isReadable_of_isRepresentable representable named).reached run).isRepresentable nonempty

/-- A flow of one step that is entered under two names. -/
def farewell : Graph where
  header := ⟨.str "farewell", .str "messaging", .null, .null, [], [], .null, .null⟩
  entrypoints := [(.str defaultEntrypoint, .str "bye"), (.str "late", .str "bye")]
  nodes := [⟨.str "bye", .template "Bye", [.leave], []⟩]
  names_distinct := by decide
  ids_distinct := by decide

def wave : Request where
  after := none
  hint := some "wave"
  node := .map [(.str "questions", .map [(.str "hand", .str "left")])]
  allowCycles := false
  requirePlaceholder := true

def waving : Plan where
  anchor := Anchor.none
  node := ⟨.str "wave", .questions [(.str "hand", .str "left")], [], []⟩
  priorRouting := []
  precedesEntry := false
  allowCycles := false

/-- The only step of a flow is deleted and another one takes its place. -/
theorem isRepresentable_reached_farewell : farewell.IsRepresentable ∧
    (∀ node ∈ farewell.nodes, (Value.scalar node.id).IsGivenText) ∧
    farewell.delete "bye" .removeOnly .refuse = .ok (farewell.remove "bye") ∧
    Plan.make (farewell.remove "bye") wave none = .ok waving ∧
    (farewell.remove "bye").apply waving = .ok ((farewell.remove "bye").startWith waving.node) ∧
    ((farewell.remove "bye").startWith waving.node).IsRepresentable := by
  have representable : farewell.IsRepresentable := by
    unfold IsRepresentable
    decide +kernel
  have named : ∀ node ∈ farewell.nodes, (Value.scalar node.id).IsGivenText := by
    intro node member
    obtain rfl := List.mem_singleton.mp member
    exact ⟨"bye", by decide, rfl⟩
  have deleted : farewell.delete "bye" .removeOnly .refuse = .ok (farewell.remove "bye") := rfl
  have made : Plan.make (farewell.remove "bye") wave none = .ok waving := by decide +kernel
  have applied : (farewell.remove "bye").apply waving =
      .ok ((farewell.remove "bye").startWith waving.node) := rfl
  have run : Relation.ReflTransGen Edited farewell ((farewell.remove "bye").startWith waving.node) :=
    .tail (.single (.delete deleted)) (.insert made applied)
  exact ⟨representable, named, deleted, made, applied,
    isRepresentable_reached representable named run (List.cons_ne_nil _ _)⟩

end Graph

end StepFlow
