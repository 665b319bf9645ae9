import StepFlow.Proofs.Edit.Independence
import StepFlow.Proofs.Value.Merging

/-! What changing a node changes. Main statement: a change leaves the rest of the graph as it is, and
of the node what is not overridden; made again it has no effect; and answers that are set in two
steps can be set in one. -/
namespace StepFlow

open Outcome

/-- How a part of a node may differ after a change: not at all if nothing is given for it. -/
inductive Overridden {α β : Type} (given : Option α) (becomes : α → β → Prop) (old : β) : β → Prop where
  | kept : given = none → Overridden given becomes old old
  | set {value : α} {new : β} : given = some value → becomes value new →
      Overridden given becomes old new

/-! ### Answers -/

variable {payload answers : Value} {given : Members} {overrides : Overrides} {id : Scalar}

theorem mergePayload_idem :
    mergePayload (mergePayload payload answers) answers = mergePayload payload answers := by
  cases answers with
  | map given =>
    cases payload <;> exact congrArg Value.map Keyed.update_idem
  | _ => rfl

/-- Answers may be set on answers before both are set on the payload. -/
theorem mergePayload_assoc (distinct : Keyed.Distinct given) :
    mergePayload (mergePayload payload (.map given)) answers =
      mergePayload payload (mergePayload (.map given) answers) := by
  cases answers with
  | map later =>
    cases payload <;> exact congrArg Value.map (Keyed.update_update distinct)
  | _ => rfl

namespace Overrides

/-- The payload with the answers, if any are given. -/
def onPayload (overrides : Overrides) (payload : Value) : Value :=
  (overrides.answers.map (mergePayload payload)).getD payload

theorem overridden_onPayload : Overridden overrides.answers
    (fun answers new => new = mergePayload payload answers) payload
    (overrides.onPayload payload) := by
  unfold onPayload
  cases given : overrides.answers with
  | none => exact .kept rfl
  | some answers => exact .set rfl rfl

theorem overridden_operation {operation : Option String} : Overridden overrides.operation
    (fun word new => new = some word) operation (overrides.operation <|> operation) := by
  cases given : overrides.operation with
  | none => exact .kept rfl
  | some word => exact .set rfl rfl

theorem onPayload_idem :
    overrides.onPayload (overrides.onPayload payload) = overrides.onPayload payload := by
  unfold onPayload
  cases overrides.answers with
  | none => rfl
  | some answers => exact mergePayload_idem

/-- Answers to set, and nothing else. -/
def answering (answers : Value) : Overrides :=
  ⟨none, some answers, none⟩

theorem onPayload_answering : (answering answers).onPayload payload = mergePayload payload answers :=
  rfl

end Overrides

/-! ### Kinds -/

namespace Kind

variable {kind new : Kind} {name key : String} {packAlias operation : Option String}

/-- The kind after a change is of the same sort and, if it invokes a component, of the same
component. -/
inductive Revises (overrides : Overrides) : Kind → Kind → Prop where
  | component {name : String} {packAlias operation operation' : Option String}
      {payload payload' : Value}
      (operations : Overridden overrides.operation (fun word new => new = some word)
        operation operation')
      (payloads : Overridden overrides.answers (fun answers new => new = mergePayload payload answers)
        payload payload') :
      Revises overrides (.component name packAlias operation payload)
        (.component name packAlias operation' payload')
  | other {key : String} {payload payload' : Value} (noOperation : overrides.operation = none)
      (payloads : Overridden overrides.answers (fun answers new => new = mergePayload payload answers)
        payload payload') :
      Revises overrides (.other key payload) (.other key payload')
  | fixed {kind : Kind} (isFixed : kind.fixedName?.isSome = true)
      (noOperation : overrides.operation = none) (noAnswers : overrides.answers = none) :
      Revises overrides kind kind

/-- The kind has a payload that answers are set on. -/
inductive TakesAnswers : Kind → Prop where
  | component {name : String} {packAlias operation : Option String} {payload : Value} :
      TakesAnswers (.component name packAlias operation payload)
  | other {key : String} {payload : Value} : TakesAnswers (.other key payload)

theorem override_component :
    (component name packAlias operation payload).override id overrides = .ok new ↔
      (overrides.operation.map isBlankText).getD false = false ∧
        component name packAlias (overrides.operation <|> operation) (overrides.onPayload payload) =
          new := by
  simp only [override, Overrides.onPayload]
  split
  · rename_i blank
    simp [blank]
  · rename_i notBlank
    simp [notBlank]

theorem override_other : (other key payload).override id overrides = .ok new ↔
    overrides.operation = none ∧ other key (overrides.onPayload payload) = new := by
  cases given : overrides.operation <;> simp [override, Overrides.onPayload, given]

theorem override_fixed (isFixed : kind.fixedName?.isSome = true) :
    kind.override id overrides = .ok new ↔
      overrides.operation = none ∧ overrides.answers = none ∧ kind = new := by
  cases kind with
  | questions | template =>
    cases given : overrides.operation <;> cases given' : overrides.answers <;>
      simp [override, given, given']
  | component | other => contradiction

theorem revises_of_override (overridden : kind.override id overrides = .ok new) :
    kind.Revises overrides new := by
  cases kind with
  | component =>
    obtain ⟨-, rfl⟩ := override_component.mp overridden
    exact .component Overrides.overridden_operation Overrides.overridden_onPayload
  | other =>
    obtain ⟨noOperation, rfl⟩ := override_other.mp overridden
    exact .other noOperation Overrides.overridden_onPayload
  | questions | template =>
    obtain ⟨noOperation, noAnswers, rfl⟩ := (override_fixed rfl).mp overridden
    exact .fixed rfl noOperation noAnswers

theorem override_idem (overridden : kind.override id overrides = .ok new) :
    new.override id overrides = .ok new := by
  cases kind with
  | component =>
    obtain ⟨notBlank, rfl⟩ := override_component.mp overridden
    refine override_component.mpr ⟨notBlank, ?_⟩
    rw [Overrides.onPayload_idem]
    cases overrides.operation <;> rfl
  | other =>
    obtain ⟨noOperation, rfl⟩ := override_other.mp overridden
    exact override_other.mpr ⟨noOperation, by rw [Overrides.onPayload_idem]⟩
  | questions | template =>
    obtain ⟨-, -, rfl⟩ := (override_fixed rfl).mp overridden
    exact overridden

/-- Answers that are set one after the other. -/
theorem TakesAnswers.override_override (takes : kind.TakesAnswers) (distinct : Keyed.Distinct given) :
    ∃ middle new, kind.override id (.answering (.map given)) = .ok middle ∧
      middle.override id (.answering answers) = .ok new ∧
      kind.override id (.answering (mergePayload (.map given) answers)) = .ok new := by
  cases takes with
  | component =>
    refine ⟨_, _, override_component.mpr ⟨rfl, rfl⟩, override_component.mpr ⟨rfl, rfl⟩,
      override_component.mpr ⟨rfl, ?_⟩⟩
    rw [Overrides.onPayload_answering, Overrides.onPayload_answering, Overrides.onPayload_answering,
      mergePayload_assoc distinct]
    rfl
  | other =>
    refine ⟨_, _, override_other.mpr ⟨rfl, rfl⟩, override_other.mpr ⟨rfl, rfl⟩,
      override_other.mpr ⟨rfl, ?_⟩⟩
    rw [Overrides.onPayload_answering, Overrides.onPayload_answering, Overrides.onPayload_answering,
      mergePayload_assoc distinct]

end Kind

namespace Graph

variable {graph result : Graph} {node : Node} {kind kind' : Kind} {routing routing' : List Route}

/-- The graph with a node changed, and the node with what is overridden changed. -/
structure IsRevised (graph : Graph) (id : Scalar) (overrides : Overrides) (result : Graph) :
    Prop where
  header : result.header = graph.header
  entrypoints : result.entrypoints = graph.entrypoints
  order : result.ids = graph.ids
  others : ∀ other, id.same other = false → result.node? other = graph.node? other
  node : ∃ old new, graph.node? id = some old ∧ result.node? id = some new ∧
    new.id = old.id ∧ new.extras = old.extras ∧ old.kind.Revises overrides new.kind ∧
    Overridden overrides.routing (fun given routing => given.resolve id = .ok routing)
      old.routing new.routing

theorem node?_revise (found : graph.node? id = some node) :
    (graph.revise id kind routing).node? id = some { node with kind, routing } := by
  obtain ⟨isNode, sameKey⟩ := node?_eq_some_iff.mp found
  refine node?_eq_some_iff.mpr ⟨List.mem_map.mpr ⟨node, isNode, ?_⟩, sameKey⟩
  rw [if_pos (Scalar.same_iff.mpr sameKey)]

/-- Of two changes of one node the later counts. -/
theorem revise_revise :
    (graph.revise id kind routing).revise id kind' routing' = graph.revise id kind' routing' := by
  ext1
  · rfl
  · rfl
  · simp only [revise, mapNodes, List.map_map]
    refine List.map_congr_left fun node _ => ?_
    simp only [Function.comp_apply]
    by_cases here : node.id.same id = true <;> simp [here]

theorem isRevised_of_update (updated : graph.update id overrides = .ok result) :
    graph.IsRevised id overrides result := by
  obtain ⟨node, kind, routing, found, overridden, resolved, rfl⟩ := update_eq_ok_iff.mp updated
  refine ⟨rfl, rfl, ids_mapNodes, fun other differ => Option.ext fun _ => node?_of_update differ updated,
    node, _, found, node?_revise found, rfl, rfl, Kind.revises_of_override overridden, ?_⟩
  cases given : overrides.routing with
  | none =>
    rw [given] at resolved
    cases resolved
    exact .kept rfl
  | some routes =>
    rw [given] at resolved
    exact .set rfl resolved

/-- A change that was made can be made again, to no effect. -/
theorem update_idem (updated : graph.update id overrides = .ok result) :
    result.update id overrides = .ok result := by
  obtain ⟨node, kind, routing, found, overridden, resolved, rfl⟩ := update_eq_ok_iff.mp updated
  refine update_eq_ok_iff.mpr ⟨_, kind, routing, node?_revise found, Kind.override_idem overridden, ?_,
    revise_revise.symm⟩
  cases given : overrides.routing with
  | none => rfl
  | some routes => rwa [given] at resolved

/-- Answers that are set in two steps can be set in one. -/
theorem exists_update_update (found : graph.node? id = some node) (takes : node.kind.TakesAnswers)
    (distinct : Keyed.Distinct given) : ∃ result,
      (graph.update id (.answering (.map given)) >>= fun middle =>
        middle.update id (.answering answers)) = .ok result ∧
      graph.update id (.answering (mergePayload (.map given) answers)) = .ok result := by
  obtain ⟨middle, new, first, second, both⟩ := takes.override_override distinct
  refine ⟨graph.revise id new node.routing, bind_eq_ok.mpr ⟨graph.revise id middle node.routing, ?_, ?_⟩,
    ?_⟩
  · exact update_eq_ok_iff.mpr ⟨node, middle, node.routing, found, first, rfl, rfl⟩
  · exact update_eq_ok_iff.mpr ⟨_, new, node.routing, node?_revise found, second, rfl,
      revise_revise.symm⟩
  · exact update_eq_ok_iff.mpr ⟨node, new, node.routing, found, both, rfl, rfl⟩

/-- A change is confined to what is overridden, has its whole effect at once, and may set together
what others would set one after the other. -/
theorem update_laws (graph : Graph) (id : Scalar) :
    (∀ overrides result, graph.update id overrides = .ok result →
      graph.IsRevised id overrides result ∧ result.update id overrides = .ok result) ∧
    (∀ node given answers, graph.node? id = some node → node.kind.TakesAnswers →
      Keyed.Distinct given → ∃ result,
        (graph.update id (.answering (.map given)) >>= fun middle =>
          middle.update id (.answering answers)) = .ok result ∧
        graph.update id (.answering (mergePayload (.map given) answers)) = .ok result) :=
  ⟨fun _ _ updated => ⟨isRevised_of_update updated, update_idem updated⟩,
    fun _ _ _ found takes distinct => exists_update_update found takes distinct⟩

/-- A desk that asks one thing. -/
def helpdesk : Graph where
  header := ⟨.str "helpdesk", .str "messaging", .null, .null, [], [], .null, .null⟩
  entrypoints := [(.str "help", .str "ask")]
  nodes := [
    ⟨.str "ask", .component "desk.ask" none (some "open")
      (.map [(.str "tone", .str "warm"), (.int 1, .str "first")]), [.toNode "close"], []⟩,
    ⟨.str "close", .template "bye", [], []⟩]
  names_distinct := by decide
  ids_distinct := by decide

def holding : Overrides :=
  ⟨some "hold", some (.map [(.str "topic", .str "bill")]), some (.value (.str "exit"))⟩

/-- The desk asks in another way and leaves the flow. With `true`, which is the key `1`, and then `1`
it is told the same as with the later value for `true`. -/
theorem update_laws_helpdesk :
    (∃ result, helpdesk.update "ask" holding = .ok result ∧ helpdesk.IsRevised "ask" holding result ∧
      result.update "ask" holding = .ok result) ∧
    ∃ result,
      (helpdesk.update "ask" (.answering (.map [(.bool true, .str "second"), (.str "topic", .str "bill")])) >>=
        fun middle => middle.update "ask" (.answering (.map [(.int 1, .str "third")]))) = .ok result ∧
      helpdesk.update "ask" (.answering (.map [(.bool true, .str "third"), (.str "topic", .str "bill")])) =
        .ok result := by
  have updated : helpdesk.update "ask" holding = .ok _ := rfl
  have found : helpdesk.node? "ask" = some _ := rfl
  exact ⟨⟨_, updated, (update_laws helpdesk "ask").1 _ _ updated⟩,
    (update_laws helpdesk "ask").2 _ _ (.map [(.int 1, .str "third")]) found .component (by decide)⟩

end Graph

end StepFlow
