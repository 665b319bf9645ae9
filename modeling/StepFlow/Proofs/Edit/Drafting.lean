import StepFlow.Edit.Draft
import StepFlow.Proofs.Document.Nodes

/-! Descriptions of nodes to insert. Main statements: what is made of one is as reading a document
would give it, and what cannot be made of one is told as a fault. -/
namespace StepFlow

open Outcome

/-- If the operation fails, then for a fault of the flow. -/
def OnlyFaults {α : Type} (result : Except Failure α) : Prop :=
  ∀ failure, result = .error failure → ∃ fault, failure = .flow fault

section

variable {α β : Type} {x : Except Failure α} {f : α → Except Failure β}

theorem onlyFaults_ok {a : α} : OnlyFaults (.ok a) :=
  fun _ failed => nomatch failed

theorem onlyFaults_flow {fault : FlowFault} : OnlyFaults (.error (.flow fault) : Except Failure α) :=
  fun _ failed => ⟨fault, (Except.error.inj failed).symm⟩

theorem OnlyFaults.bind (first : OnlyFaults x) (rest : ∀ a, x = .ok a → OnlyFaults (f a)) :
    OnlyFaults (x >>= f) := by
  cases x with
  | error failure =>
    intro other failed
    exact first other (congrArg Except.error (Except.error.inj failed))
  | ok a => exact rest a rfl

end

/-- Every key is a text. -/
def HasTextKeys (members : Members) : Prop :=
  ∀ key ∈ Keyed.keys members, ∃ s, key = .str s

instance (key : Scalar) : Decidable (∃ s, key = .str s) :=
  match key with
  | .str s => .isTrue ⟨s, rfl⟩
  | .null | .bool _ | .int _ | .float _ | .date _ | .datetime _ | .bytes _ => .isFalse nofun

instance (members : Members) : Decidable (HasTextKeys members) :=
  List.decidableBAll _ _

namespace Draft

variable {draft result : Draft} {value : Value} {kind : Kind}

/-- What a component needs of its operation, if its key names none. -/
def IsNamed (draft : Draft) : Prop :=
  draft.component = execKey → (draft.operation.map isBlankText).getD true = false

/-- The draft with the operation that its payload may hold. -/
def takeOperation (draft : Draft) : Draft :=
  match draft.operation, draft.payload with
  | none, .map fields =>
    match Members.get fields "operation" with
    | .scalar (.str operation) =>
      if isBlankText operation then draft
      else
        { draft with
          operation := some (trim operation)
          payload := .map (Keyed.erase fields "operation") }
    | _ => draft
  | _, _ => draft

theorem withOperation_eq : draft.withOperation =
    if draft.component ≠ execKey then .ok draft
    else if (draft.takeOperation.operation.map isBlankText).getD true then
      .error ShapeFault.operationMissing.onDraft
    else .ok draft.takeOperation := rfl

theorem of_takeOperation : draft.takeOperation.component = draft.component ∧
    draft.takeOperation.routing = draft.routing := by
  unfold takeOperation
  split
  · split
    · split <;> exact ⟨rfl, rfl⟩
    · exact ⟨rfl, rfl⟩
  · exact ⟨rfl, rfl⟩

theorem of_withOperation (done : draft.withOperation = .ok result) :
    result.component = draft.component ∧ result.routing = draft.routing ∧ result.IsNamed := by
  rw [withOperation_eq] at done
  split at done
  · rename_i other
    cases done
    exact ⟨rfl, rfl, fun same => absurd same other⟩
  split at done
  · cases done
  · rename_i named
    cases done
    exact ⟨of_takeOperation.1, of_takeOperation.2, fun _ => Bool.eq_false_iff.mpr named⟩

theorem of_ofValue? (drafted : ofValue? value = .ok draft) :
    isValidComponentKey draft.component = true ∧ (∀ route ∈ draft.routing, route.LeadsByText) ∧
      draft.IsNamed := by
  unfold ofValue? at drafted
  split at drafted
  · simp only [bind_eq_ok, atNode, mapError_eq_ok] at drafted
    obtain ⟨members, -, packAlias, -, operation, -, routing, parsed, ⟨component, payload⟩, -, done⟩ :=
      drafted
    simp only at done
    split at done
    · rename_i valid
      obtain ⟨sameComponent, sameRouting, named⟩ := of_withOperation done
      refine ⟨by rw [sameComponent]; exact valid, ?_, named⟩
      rw [sameRouting]
      exact leadsByText_of_parseRouteList parsed
    · cases done
  · cases drafted

theorem isCanonical_of_kind (valid : isValidComponentKey draft.component = true)
    (named : draft.IsNamed) (kinded : draft.kind = .ok kind) : kind.IsCanonical := by
  unfold Draft.kind at kinded
  split at kinded
  · split at kinded <;> cases kinded
    trivial
  rename_i notQuestions
  split at kinded
  · split at kinded <;> cases kinded
    trivial
  rename_i notTemplate
  cases kinded
  have pattern : ComponentKey.isPattern draft.component = true := by
    simpa [isValidComponentKey, builtinKeys, notQuestions, notTemplate] using valid
  exact ⟨pattern, named⟩

/-! ### Faults -/

section

variable {members nested flat : Members} {key : String} {tool : Value}

theorem hasTextKeys_insert (texts : HasTextKeys members) :
    HasTextKeys (Keyed.insert (.str key) value members) := by
  intro other isKey
  rcases Keyed.mem_keys_insert isKey with known | rfl
  · exact texts other known
  · exact ⟨key, rfl⟩

theorem hasTextKeys_hoist (texts : HasTextKeys members) :
    HasTextKeys (hoist key nested members) := by
  unfold hoist
  split
  · split
    · exact texts
    · exact hasTextKeys_insert texts
  · exact texts

theorem get?_hoist {name : String} (differ : key ≠ name) :
    Keyed.get? (hoist key nested members) (.str name) = Keyed.get? members (.str name) := by
  unfold hoist
  split
  · split
    · rfl
    · rw [Keyed.get?_insert, if_neg (by simpa using differ)]
  · rfl

theorem of_flatten (flattened : flatten members = .ok flat) :
    flat = members ∨ ∃ component fields nested,
      flat = Keyed.insert (.str component) (.map fields)
        (hoist "operation" nested (hoist "pack_alias" nested (Keyed.erase members (.str "tool")))) := by
  unfold flatten at flattened
  split at flattened
  · right
    unfold unwrapTool at flattened
    split at flattened
    · split at flattened
      · split at flattened
        · cases flattened
        split at flattened
        · cases flattened
        · cases flattened
          exact ⟨_, _, _, rfl⟩
      · cases flattened
    · cases flattened
  · cases flattened
    exact .inl rfl

theorem hasTextKeys_flatten (texts : HasTextKeys members) (flattened : flatten members = .ok flat) :
    HasTextKeys flat := by
  obtain rfl | ⟨component, fields, nested, rfl⟩ := of_flatten flattened
  · exact texts
  · refine hasTextKeys_insert (hasTextKeys_hoist (hasTextKeys_hoist fun key isKey => ?_))
    exact texts key (Keyed.keys_erase_subset isKey)

/-- A list of routes stands where it stood before the tool was unwrapped. -/
theorem routing_of_flatten {items : List Value} (flattened : flatten members = .ok flat)
    (isRouting : Members.get flat (.str "routing") = .list items) :
    Members.get members (.str "routing") = .list items := by
  obtain rfl | ⟨component, fields, nested, rfl⟩ := of_flatten flattened
  · exact isRouting
  · rw [Members.get, Keyed.get?_insert] at isRouting
    split at isRouting
    · cases isRouting
    · rwa [get?_hoist (by decide), get?_hoist (by decide), Keyed.get?_erase (by decide)] at isRouting

theorem onlyFaults_flatten : OnlyFaults (flatten members) := by
  unfold flatten
  split
  · unfold unwrapTool
    split
    · split
      · split
        · exact onlyFaults_flow
        split
        · exact onlyFaults_flow
        · exact onlyFaults_ok
      · exact onlyFaults_flow
    · exact onlyFaults_flow
  · exact onlyFaults_ok

theorem onlyFaults_optionalText {value : Value} {fault : ShapeFault} :
    OnlyFaults (optionalText value fault.onDraft) := by
  unfold optionalText
  split
  · exact onlyFaults_ok
  · exact onlyFaults_ok
  · exact onlyFaults_flow

theorem onlyFaults_component? (texts : HasTextKeys members) : OnlyFaults (component? members) := by
  unfold component?
  simp only
  generalize several : members.filter _ = others
  have isText : ∀ member ∈ others, ∃ s, member.1 = .str s := by
    intro member isOther
    rw [← several] at isOther
    exact texts member.1 (List.mem_map_of_mem (List.mem_filter.mp isOther).1)
  split
  · exact onlyFaults_flow
  · exact onlyFaults_ok
  · rename_i lone noText
    obtain ⟨s, isKey⟩ := isText lone (.head _)
    exact (noText s lone.2 (Prod.ext isKey rfl)).elim
  · -- several keys are listed in the message, which takes texts
    rw [if_pos]
    · exact onlyFaults_flow
    · rw [← Keyed.length_keys, List.filterMap_length_eq_length]
      intro key isKey
      obtain ⟨member, isMember, rfl⟩ := List.mem_map.mp isKey
      obtain ⟨s, isText⟩ := isText member isMember
      rw [isText]
      rfl

theorem onlyFaults_withOperation : OnlyFaults draft.withOperation := by
  rw [withOperation_eq]
  split
  · exact onlyFaults_ok
  split
  · exact onlyFaults_flow
  · exact onlyFaults_ok

theorem onlyFaults_kind : OnlyFaults draft.kind := by
  unfold Draft.kind
  split
  · split
    · exact onlyFaults_ok
    · exact onlyFaults_flow
  split
  · split
    · exact onlyFaults_ok
    · exact onlyFaults_flow
  split
  · exact onlyFaults_ok
  · exact onlyFaults_ok

/-- A fault of a route shows no key but one of its own. -/
theorem shown_of_route {fault : RoutingFault} (failed : Route.ofValue? value = .error fault) :
    ∀ key ∈ fault.shown, ∃ members, value = .map members ∧ key ∈ Keyed.keys members := by
  intro key isShown
  unfold Route.ofValue? at failed
  split at failed
  · split at failed
    · rename_i members _ other found
      cases failed
      obtain rfl := List.mem_singleton.mp isShown
      exact ⟨members, rfl, List.mem_of_find?_eq_some found⟩
    · simp only at failed
      split at failed
      · cases failed
        cases isShown
      · cases failed
        cases isShown
      · cases failed
  · cases failed
    cases isShown

/-- A fault of a list of routes shows no key but one of an entry. -/
theorem shown_of_parseRouteList {fault : RoutingFault} (failed : parseRouteList value = .error fault) :
    ∀ key ∈ fault.shown, ∃ items members, value = .list items ∧ .map members ∈ items ∧
      key ∈ Keyed.keys members := by
  intro key isShown
  unfold parseRouteList at failed
  split at failed
  · cases failed
  · rename_i items
    obtain ⟨item, isItem, once⟩ := exists_of_mapM_error failed
    obtain ⟨members, rfl, isKey⟩ := shown_of_route once key isShown
    exact ⟨items, members, rfl, isItem, isKey⟩
  · cases failed
    cases isShown

/-- All keys are texts, and those of routes are at least short enough to be shown. -/
structure HasPlainKeys (members : Members) : Prop where
  texts : HasTextKeys members
  routes : ∀ items, Members.get members (.str "routing") = .list items →
    ∀ entry, .map entry ∈ items → ∀ key ∈ Keyed.keys entry, key.isWritable = true

theorem onlyFaults_routing (plain : HasPlainKeys members) (flattened : flatten members = .ok flat) :
    OnlyFaults (atNode (.str draftName) (parseRouteList (Members.get flat (.str "routing")))) := by
  cases parsed : parseRouteList (Members.get flat (.str "routing")) with
  | ok routing => exact onlyFaults_ok
  | error fault =>
    have writable : fault.shown.all Scalar.isWritable = true := by
      rw [List.all_eq_true]
      intro key isShown
      obtain ⟨items, entry, isRouting, isEntry, isKey⟩ := shown_of_parseRouteList parsed key isShown
      exact plain.routes items (routing_of_flatten flattened isRouting) entry isEntry key isKey
    have told : (FlowFault.routing fault (.node (.str draftName))).shown.all Scalar.isWritable = true := by
      simp [FlowFault.shown, RoutingPlace.id?, writable, Scalar.isWritable]
    have failure : Failure.ofFault (.routing fault (.node (.str draftName))) =
        .flow (.routing fault (.node (.str draftName))) := if_pos told
    simp only [atNode, Except.mapError, failure]
    exact onlyFaults_flow

/-- What is wrong with a description of plain keys is told as a fault. -/
theorem onlyFaults_ofValue? (plain : ∀ members, value = .map members → HasPlainKeys members) :
    OnlyFaults (ofValue? value) := by
  unfold ofValue?
  split
  · rename_i members
    have plain := plain members rfl
    refine onlyFaults_flatten.bind fun flat flattened => ?_
    refine onlyFaults_optionalText.bind fun packAlias _ => ?_
    refine onlyFaults_optionalText.bind fun operation _ => ?_
    refine (onlyFaults_routing plain flattened).bind fun routing _ => ?_
    refine (onlyFaults_component? (hasTextKeys_flatten plain.texts flattened)).bind fun part _ => ?_
    simp only
    split
    · exact onlyFaults_withOperation
    · exact onlyFaults_flow
  · exact onlyFaults_flow

end

end Draft

end StepFlow
