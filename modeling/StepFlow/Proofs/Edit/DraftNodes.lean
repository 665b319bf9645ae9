import StepFlow.Proofs.Edit.DraftForms

/-! Descriptions that are read as parts of a document. Main statement: what a draft makes a node of
is a node for documents too, of the same kind and routing; but where the kind has no use for an
alias or an operation, the draft drops what the document keeps. -/
namespace StepFlow.Draft

open Outcome Keyed

variable {draft start : Draft} {kind : Kind} {members : Members} {id : Scalar} {node : Node}

/-- The operation is the one that stands beside the component. Only an operation that was taken
from a payload is not. -/
def KeepsOperation (draft : Draft) (members : Members) : Prop :=
  (Members.get members "operation").str? = draft.operation

theorem of_kind (valid : isValidComponentKey draft.component = true)
    (kinded : draft.kind = .ok kind) : kind.key = draft.component ∧ kind.payload = draft.payload ∧
      kind.Takes draft.packAlias draft.operation := by
  unfold Draft.kind at kinded
  split at kinded
  · rename_i isQuestions
    split at kinded
    · rename_i fields given
      cases kinded
      exact ⟨isQuestions.symm, given.symm, trivial⟩
    · cases kinded
  split at kinded
  · rename_i isTemplate
    split at kinded
    · rename_i text given
      cases kinded
      exact ⟨isTemplate.symm, given.symm, trivial⟩
    · cases kinded
  · cases kinded
    exact ⟨rfl, rfl, rfl, rfl⟩

/-- Documents and drafts agree on the kind. -/
theorem kindOf_of_kind (valid : isValidComponentKey draft.component = true)
    (named : draft.IsNamed) (kinded : draft.kind = .ok kind) :
    Node.kindOf id draft.component draft.packAlias draft.operation draft.payload = .ok kind := by
  obtain ⟨key, payload, takes⟩ := of_kind valid kinded
  rw [← key, ← payload]
  exact Node.kindOf_of_isCanonical (isCanonical_of_kind valid named kinded) takes

/-- A draft that keeps its operation has taken none. -/
theorem eq_of_withOperation (done : start.withOperation = .ok draft)
    (kept : start.operation = draft.operation) : draft = start := by
  obtain ⟨sameComponent, -, named⟩ := of_withOperation done
  rw [withOperation_eq] at done
  split at done
  · exact (Except.ok.inj done).symm
  rename_i exec
  split at done
  · cases done
  have given := named (sameComponent.trans (not_not.mp exec))
  rw [← kept] at given
  exact (Except.ok.inj done).symm.trans (takeOperation_of_given given)

theorem str?_getD_map {text? : Option String} :
    ((text?.map Value.str).getD .null).str? = text? := by
  cases text? <;> rfl

/-- Beside a component and its fields nothing is reserved. -/
theorem reservedMembers_of_parts {key : String} {payload : Value}
    (lone : parts members = [(.str key, payload)]) (free : key ∉ Node.sideKeys) :
    Node.reservedMembers members = [] := by
  have apart : ∀ name ∈ reservedKeys, name ∉ fieldNames ∧ name ∈ Node.sideKeys := by decide
  rw [Node.reservedMembers, List.filterMap_eq_nil_iff]
  intro name reserved
  obtain ⟨notField, side⟩ := apart name reserved
  rw [Option.map_eq_none_iff, get?_eq_none_iff]
  intro member isMember
  rw [Bool.eq_false_iff]
  intro same
  obtain ⟨spelling, value⟩ := member
  obtain rfl := (Scalar.same_str _ _).mp same
  have isPart : (Scalar.str name, value) ∈ parts members :=
    List.mem_filter.mpr ⟨isMember, by simp [mt isField_str.mp notField]⟩
  rw [lone, List.mem_singleton] at isPart
  exact free (Scalar.str.inj (congrArg Prod.fst isPart) ▸ side)

theorem componentMembers_of_parts {key : String} {payload : Value}
    (lone : parts members = [(.str key, payload)]) (free : key ∉ Node.sideKeys) :
    Node.componentMembers members = [(.str key, payload)] := by
  have narrower : Node.componentMembers members = Node.componentMembers (parts members) := by
    rw [Node.componentMembers_eq_filter, Node.componentMembers_eq_filter, parts, List.filter_filter]
    refine List.filter_congr fun member _ => ?_
    have side : isField member = true → Node.isSide member = true := by
      simp only [isField, Node.isSide, List.any_eq_true]
      rintro ⟨name, isName, same⟩
      exact ⟨name, fieldNames_subset isName, same⟩
    cases isSide : Node.isSide member with
    | true => rfl
    | false =>
      have notField : isField member = false := Bool.eq_false_iff.mpr fun isField => by
        simp [side isField] at isSide
      simp [notField]
  rw [narrower, lone, Node.componentMembers_cons free]
  rfl

/-- What is read of a description as part of a document. The alias and the operation are kept
whether or not the kind has a use for them. -/
theorem ofValue?_of_isSpelledBy (spelled : draft.IsSpelledBy members)
    (valid : isValidComponentKey draft.component = true) (named : draft.IsNamed)
    (kinded : draft.kind = .ok kind) : Node.ofValue? id (.map members) =
      .ok ⟨id, kind, draft.routing,
        if kind.isComponent then [] else Node.strayMembers draft.packAlias draft.operation⟩ := by
  have free := (free_of_isValidComponentKey valid).2
  have routing : parseRoutes (Members.get members "routing") = .ok draft.routing :=
    parseRoutes_of_parseRouteList spelled.routing
  simp only [Node.ofValue?, routing, spelled.packAlias, spelled.operation, atNode, Except.mapError,
    componentMembers_of_parts spelled.part free, reservedMembers_of_parts spelled.part free]
  exact bind_eq_ok.mpr ⟨_, rfl, bind_eq_ok.mpr ⟨_, optionalText_eq_ok_iff.mpr rfl,
    bind_eq_ok.mpr ⟨_, optionalText_eq_ok_iff.mpr rfl,
      bind_eq_ok.mpr ⟨_, kindOf_of_kind valid named kinded, rfl⟩⟩⟩⟩

theorem strayMembers_eq_nil_iff {packAlias operation : Option String} :
    Node.strayMembers packAlias operation = [] ↔ packAlias = none ∧ operation = none := by
  cases packAlias <;> cases operation <;> simp [Node.strayMembers]

/-- A description that keeps its operation gives documents and drafts the same node. Only an alias
or an operation that the kind has no use for is kept by documents and dropped by drafts. -/
theorem ofValue?_of_toNode (untooled : Keyed.get? members "tool" = none)
    (drafted : ofValue? (.map members) = .ok draft) (kept : draft.KeepsOperation members)
    (built : draft.toNode id draft.routing = .ok node) :
    ∃ read, Node.ofValue? id (.map members) = .ok read ∧ read.id = node.id ∧
      read.kind = node.kind ∧ read.routing = node.routing ∧
      read.extras = node.extras ++ (if node.kind.isComponent then []
        else Node.strayMembers draft.packAlias draft.operation) ∧
      (read.extras = node.extras ↔
        node.kind.isComponent = true ∨ draft.packAlias = none ∧ draft.operation = none) := by
  obtain ⟨valid, -, named⟩ := of_ofValue? drafted
  rw [ofValue?_untooled untooled, ofFlat_eq_ok_iff] at drafted
  obtain ⟨start, spelled, -, done⟩ := drafted
  have same : start.operation = draft.operation := by
    rw [← kept, spelled.operation, str?_getD_map]
  obtain rfl := eq_of_withOperation done same
  obtain ⟨kind, kinded, rfl⟩ := map_eq_ok.mp built
  refine ⟨_, ofValue?_of_isSpelledBy spelled valid named kinded, rfl, rfl, rfl, rfl, ?_⟩
  cases isComponent : kind.isComponent with
  | true => simp
  | false => simp [strayMembers_eq_nil_iff]

/-- A step with a text and an alias, which only components have a use for. -/
def signed : Members :=
  [(.str "template", .str "Hi"), (.str "pack_alias", .str "qa")]

def signedDraft : Draft where
  component := "template"
  packAlias := some "qa"
  operation := none
  payload := .str "Hi"
  routing := []

theorem ofValue?_of_toNode_signed :
    (Keyed.get? renderDraft.toMembers "tool" = none ∧
      ofValue? (.map renderDraft.toMembers) = .ok renderDraft ∧
      renderDraft.KeepsOperation renderDraft.toMembers ∧ ∃ node read,
        renderDraft.toNode "pending" renderDraft.routing = .ok node ∧
        Node.ofValue? "pending" (.map renderDraft.toMembers) = .ok read ∧
        node.kind.isComponent = true ∧ read.kind = node.kind ∧ read.extras = node.extras) ∧
    Keyed.get? signed "tool" = none ∧ ofValue? (.map signed) = .ok signedDraft ∧
    signedDraft.KeepsOperation signed ∧ ∃ node read,
      signedDraft.toNode "pending" signedDraft.routing = .ok node ∧
      Node.ofValue? "pending" (.map signed) = .ok read ∧ read.kind = node.kind ∧
      (read.extras = node.extras ↔
        node.kind.isComponent = true ∨ signedDraft.packAlias = none ∧ signedDraft.operation = none) := by
  have called : ofValue? (.map renderDraft.toMembers) = .ok renderDraft :=
    ofValue?_toMembers ofValue?_rendering
  have kinded : renderDraft.kind =
      .ok (.component execKey none (some "render") renderDraft.payload) := by
    have valid : isValidComponentKey renderDraft.component = true := by
      change isValidComponentKey execKey = true
      simp [isValidComponentKey, ComponentKey.isPattern_execKey]
    rw [kind, if_neg (by decide), if_neg (by decide), if_pos valid]
    rfl
  have builtCall : renderDraft.toNode "pending" renderDraft.routing =
      .ok ⟨"pending", .component execKey none (some "render") renderDraft.payload,
        renderDraft.routing, []⟩ := by
    rw [toNode, kinded]
    rfl
  obtain ⟨call, isCall, -, sameCall, -, -, agree⟩ := ofValue?_of_toNode rfl called rfl builtCall
  have drafted : ofValue? (.map signed) = .ok signedDraft := by decide
  have built : signedDraft.toNode "pending" signedDraft.routing =
      .ok ⟨"pending", .template "Hi", [], []⟩ := rfl
  obtain ⟨read, isRead, -, sameKind, -, -, sameExtras⟩ := ofValue?_of_toNode rfl drafted rfl built
  exact ⟨⟨rfl, called, rfl, _, call, builtCall, isCall, rfl, sameCall, agree.mpr (.inl rfl)⟩,
    rfl, drafted, rfl, _, read, built, isRead, sameKind, sameExtras⟩

/-- The alias of a template is lost on the way through a draft. -/
theorem not_ofValue?_of_toNode_signed :
    HasTextKeys signed ∧ Keyed.get? signed "tool" = none ∧
    ofValue? (.map signed) = .ok signedDraft ∧ signedDraft.KeepsOperation signed ∧
    signedDraft.toNode "pending" signedDraft.routing = .ok ⟨"pending", .template "Hi", [], []⟩ ∧
    Node.ofValue? "pending" (.map signed) =
      .ok ⟨"pending", .template "Hi", [], [(.str "pack_alias", .str "qa")]⟩ := by
  exact ⟨by decide, rfl, by decide, rfl, rfl, by decide⟩

end StepFlow.Draft
