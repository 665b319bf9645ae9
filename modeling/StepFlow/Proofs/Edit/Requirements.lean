import StepFlow.Proofs.Edit.Revision
import StepFlow.Proofs.Text.Cutting

/-! Required fields of a payload that answers are set on. Main statement: a dotted field is looked up
in the answers if they give the key that it starts with, and in the old payload if they do not; so a
complete payload comes to lack what the answers cut short, and nothing else. -/
namespace StepFlow

variable {payload : Value} {given : Members} {key field : String} {path fields : List String}

/-- The key that a dotted field starts with: what stands before its first dot. -/
def rootKey (field : String) : String :=
  String.ofList (field.toList.takeWhile (· ≠ '.'))

theorem exists_splitText_eq_rootKey (field : String) :
    ∃ path, splitText '.' field = rootKey field :: path :=
  exists_splitText_eq_cons

/-! ### Paths through a payload -/

/-- A path starts at a member of the payload. What is no mapping has none. -/
theorem hasPath_cons : hasPath payload (key :: path) =
    (Keyed.get? (payload.map?.getD []) (.str key)).any (hasPath · path) := by
  cases payload with
  | map members =>
    rw [hasPath, Value.map?, Option.getD_some]
    cases Keyed.get? members (.str key) <;> rfl
  | scalar | list | pair | set => simp [hasPath, Value.map?]

/-- Answers are set on the members of a mapping, and on nothing where there is none. -/
theorem mergePayload_map :
    mergePayload payload (.map given) = .map (Keyed.update (payload.map?.getD []) given) := by
  cases payload <;> rfl

theorem hasPath_mergePayload (distinct : Keyed.Distinct given) :
    hasPath (mergePayload payload (.map given)) (key :: path) =
      if Keyed.contains given (.str key) then hasPath (.map given) (key :: path)
      else hasPath payload (key :: path) := by
  simp only [hasPath_cons, mergePayload_map, Value.map?, Option.getD_some,
    Keyed.get?_update_of_distinct distinct]
  cases known : Keyed.contains given (.str key) with
  | true =>
    obtain ⟨value, found⟩ := Keyed.contains_iff.mp known
    rw [found, Option.some_or, if_pos rfl]
  | false =>
    rw [Keyed.contains_eq_false_iff_get?.mp known, Option.none_or, if_neg Bool.false_ne_true]

/-! ### Required fields -/

theorem hasRequiredField_mergePayload (distinct : Keyed.Distinct given) :
    hasRequiredField (mergePayload payload (.map given)) field =
      if Keyed.contains given (.str (rootKey field)) then hasRequiredField (.map given) field
      else hasRequiredField payload field := by
  obtain ⟨path, split⟩ := exists_splitText_eq_rootKey field
  simp only [hasRequiredField, split, hasPath_mergePayload distinct]

/-- The fields that answers leave open where they set the mapping that a field lies in. -/
def cutFields (given : Members) (fields : List String) : List String :=
  fields.filter fun field =>
    Keyed.contains given (.str (rootKey field)) && !hasRequiredField (.map given) field

theorem missingFields_mergePayload (distinct : Keyed.Distinct given)
    (complete : missingFields payload fields = []) :
    missingFields (mergePayload payload (.map given)) fields = cutFields given fields := by
  refine List.filter_congr fun field isField => ?_
  have has : hasRequiredField payload field = true := by
    simpa using List.filter_eq_nil_iff.mp complete field isField
  rw [hasRequiredField_mergePayload distinct, has]
  cases Keyed.contains given (.str (rootKey field)) <;> simp

namespace Graph

variable {graph result : Graph} {id : Scalar} {node : Node} {overrides : Overrides} {name : String}
  {packAlias operation : Option String}

/-- A component that answers are given to is the same component with the answers on its payload. -/
theorem exists_component_of_update (found : graph.node? id = some node)
    (kind : node.kind = .component name packAlias operation payload)
    (answered : overrides.answers = some (.map given))
    (updated : graph.update id overrides = .ok result) :
    ∃ new, result.node? id = some new ∧ new.kind =
      .component name packAlias (overrides.operation <|> operation)
        (mergePayload payload (.map given)) := by
  obtain ⟨_, kind', routing, found', overridden, -, rfl⟩ := update_eq_ok_iff.mp updated
  cases found.symm.trans found'
  rw [kind] at overridden
  obtain ⟨-, rfl⟩ := Kind.override_component.mp overridden
  refine ⟨_, node?_revise found, ?_⟩
  rw [Overrides.onPayload, answered]
  rfl

theorem exists_update_answering (found : graph.node? id = some node)
    (kind : node.kind = .component name packAlias operation payload) (answers : Value) :
    ∃ result, graph.update id (.answering answers) = .ok result := by
  have overridden : node.kind.override id (.answering answers) =
      .ok (.component name packAlias operation (mergePayload payload answers)) := by
    rw [kind]
    exact Kind.override_component.mpr ⟨rfl, rfl⟩
  exact ⟨_, update_eq_ok_iff.mpr ⟨node, _, node.routing, found, overridden, rfl, rfl⟩⟩

/-- A field is required of the answers if they set the key that it starts with, and of the old payload
otherwise. So a component whose payload was complete lacks, with the answers, exactly the fields that
they cut. -/
theorem missingFields_update (distinct : Keyed.Distinct given) :
    (∀ payload field, hasRequiredField (mergePayload payload (.map given)) field = true ↔
      if Keyed.contains given (.str (rootKey field)) then hasRequiredField (.map given) field = true
      else hasRequiredField payload field = true) ∧
    ∀ (graph : Graph) id node name packAlias operation payload fields,
      graph.node? id = some node → node.kind = .component name packAlias operation payload →
      missingFields payload fields = [] →
      (∃ result, graph.update id (.answering (.map given)) = .ok result) ∧
      ∀ overrides result, overrides.answers = some (.map given) →
        graph.update id overrides = .ok result →
        ∃ new operation' payload', result.node? id = some new ∧
          new.kind = .component name packAlias operation' payload' ∧
          missingFields payload' fields = cutFields given fields := by
  constructor
  · intro payload field
    rw [hasRequiredField_mergePayload distinct]
    split <;> rfl
  · intro graph id node name packAlias operation payload fields found kind complete
    refine ⟨exists_update_answering found kind _, fun overrides result answered updated => ?_⟩
    obtain ⟨new, isNew, newKind⟩ := exists_component_of_update found kind answered updated
    exact ⟨new, _, _, isNew, newKind, missingFields_mergePayload distinct complete⟩

/-- A page, how it is asked for, and a key. -/
def page : Value :=
  .map [(.str "http", .map [(.str "url", .str "a"), (.str "method", .str "get")]),
    (.str "key", .str "k")]

def crawler : Graph where
  header := ⟨.str "crawler", .str "messaging", .null, .null, [], [], .null, .null⟩
  entrypoints := [(.str "default", .str "fetch")]
  nodes := [⟨.str "fetch", .component "web.fetch" none none page, [.leave], []⟩]
  names_distinct := by decide
  ids_distinct := by decide

/-- Another page, and nothing of how it is asked for. -/
def otherPage : Members :=
  [(.str "http", .map [(.str "url", .str "b")])]

/-- With the new page for all of `http` the step lacks the method, and it keeps its key. -/
theorem missingFields_update_crawler : Keyed.Distinct otherPage ∧
    missingFields page ["http.url", "http.method", "key"] = [] ∧
    ∃ result new operation' payload',
      crawler.update "fetch" ⟨some "load", some (.map otherPage), some (.value (.str "exit"))⟩ =
        .ok result ∧
      result.node? "fetch" = some new ∧
      new.kind = .component "web.fetch" none operation' payload' ∧
      missingFields payload' ["http.url", "http.method", "key"] = ["http.method"] := by
  have distinct : Keyed.Distinct otherPage := by decide
  have complete : missingFields page ["http.url", "http.method", "key"] = [] := by decide
  have found : crawler.node? "fetch" = some _ := rfl
  have updated : crawler.update "fetch"
      ⟨some "load", some (.map otherPage), some (.value (.str "exit"))⟩ = .ok _ := rfl
  obtain ⟨-, after⟩ := (missingFields_update distinct).2 crawler "fetch" _ _ _ _ _ _ found rfl complete
  obtain ⟨new, operation', payload', isNew, kind, lacks⟩ := after _ _ rfl updated
  have cut : cutFields otherPage ["http.url", "http.method", "key"] = ["http.method"] := by decide
  exact ⟨distinct, complete, _, new, operation', payload', updated, isNew, kind, lacks.trans cut⟩

end Graph

end StepFlow
