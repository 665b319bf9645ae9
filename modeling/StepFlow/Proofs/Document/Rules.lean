import StepFlow.Document.Schema
import StepFlow.Proofs.Value.Members

/-! What a document that keeps the rules looks like. Main statement: each node has routing
that keeps the rule for routing, and there each target that is given is a text. -/
namespace StepFlow

/-- A text that names something. -/
def Value.IsGivenText (value : Value) : Prop :=
  ∃ s, s ≠ "" ∧ value = .str s

theorem Value.IsGivenText.isTruthy {value : Value} (given : value.IsGivenText) :
    value.isTruthy = true := by
  obtain ⟨s, nonempty, rfl⟩ := given
  simp [Value.isTruthy, Scalar.isTruthy, nonempty]

theorem Value.IsGivenText.isText {value : Value} (given : value.IsGivenText) :
    value.str?.isSome = true := by
  obtain ⟨s, -, rfl⟩ := given
  rfl

theorem Value.isNull_iff {value : Value} : value.isNull = true ↔ value = .null := by
  unfold isNull
  split <;> simp_all

theorem Value.isGivenText_of {value : Value} (text : value.str?.isSome = true)
    (given : value.isTruthy = true) : value.IsGivenText := by
  cases value with
  | scalar s =>
    cases s with
    | str s => exact ⟨s, by simpa [isTruthy, Scalar.isTruthy] using given, rfl⟩
    | _ => simp [str?] at text
  | _ => simp [str?] at text

namespace Schema

variable {members nodes fields : Members} {value : Value}

@[simp] theorem all_eq_nil_iff {rules : List Rule} :
    all rules value = [] ↔ ∀ rule ∈ rules, rule value = [] := by
  simp [all]

@[simp] theorem under_eq_nil_iff {step : Scalar} {findings : List Finding} :
    under step findings = [] ↔ findings = [] :=
  List.map_eq_nil_iff

@[simp] theorem hasType_eq_nil_iff {types : List Typ} :
    hasType types value = [] ↔ ∃ type ∈ types, type.admits value = true := by
  rw [← List.any_eq_true]
  simp [hasType, findingOf, finding]

theorem properties_eq_nil_iff {rules : List (String × Rule)} :
    properties rules (.map members) = [] ↔
      ∀ name rule, (name, rule) ∈ rules → ∀ value, Keyed.get? members (.str name) = some value →
        rule value = [] := by
  simp only [properties, List.flatMap_eq_nil_iff, Prod.forall]
  refine forall_congr' fun name => forall_congr' fun rule => imp_congr_right fun _ => ?_
  cases Keyed.get? members (.str name) <;> simp

theorem everyMember_eq_nil_iff {rule : Rule} : everyMember rule (.map members) = [] ↔
    ∀ key value, (key, value) ∈ members → rule value = [] := by
  simp [everyMember]

theorem everyItem_eq_nil_iff {rule : Rule} {items : List Value} :
    everyItem rule (.list items) = [] ↔ ∀ item ∈ items, rule item = [] := by
  simp only [everyItem, List.flatMap_eq_nil_iff, under_eq_nil_iff, Prod.forall]
  constructor
  · intro kept item member
    obtain ⟨place, here⟩ := List.getElem?_of_mem member
    exact kept item place (List.mk_mem_zipIdx_iff_getElem?.mpr here)
  · intro kept item place here
    exact kept item (List.fst_mem_of_mem_zipIdx here)

theorem isText_of_hasType (kept : hasType [.string] value = []) : ∃ s, value = .str s := by
  obtain ⟨type, lone, admits⟩ := hasType_eq_nil_iff.mp kept
  obtain rfl := List.mem_singleton.mp lone
  unfold Typ.admits at admits
  split at admits <;> simp_all

theorem isMap_of_hasType (kept : hasType [.object] value = []) : ∃ members, value = .map members := by
  obtain ⟨type, lone, admits⟩ := hasType_eq_nil_iff.mp kept
  obtain rfl := List.mem_singleton.mp lone
  unfold Typ.admits at admits
  split at admits <;> simp_all

theorem isList_of_hasType (kept : hasType [.array] value = []) : ∃ items, value = .list items := by
  obtain ⟨type, lone, admits⟩ := hasType_eq_nil_iff.mp kept
  obtain rfl := List.mem_singleton.mp lone
  unfold Typ.admits at admits
  split at admits <;> simp_all

theorem isFlag_of_hasType (kept : hasType [.boolean] value = []) : ∃ flag, value = .bool flag := by
  obtain ⟨type, lone, admits⟩ := hasType_eq_nil_iff.mp kept
  obtain rfl := List.mem_singleton.mp lone
  unfold Typ.admits at admits
  split at admits <;> simp_all

/-- The rule for what may be null as well. -/
theorem hasType_null_iff {type : Typ} :
    hasType [type, .null] value = [] ↔ hasType [type] value = [] ∨ value = .null := by
  have isNull : Typ.null.admits value = true ↔ value = .null := by
    unfold Typ.admits
    split <;> simp_all
  simp [isNull]

theorem nonEmptyString_eq_nil_iff : nonEmptyString value = [] ↔ value ≠ .str "" := by
  unfold nonEmptyString
  split
  · simp [findingOf, finding]
  · rename_i other
    simpa using other

/-- The rule for names. -/
theorem isGivenText_iff : hasType [.string] value = [] ∧ nonEmptyString value = [] ↔
    value.IsGivenText := by
  rw [nonEmptyString_eq_nil_iff]
  constructor
  · rintro ⟨text, nonempty⟩
    obtain ⟨s, rfl⟩ := isText_of_hasType text
    exact ⟨s, fun empty => nonempty (congrArg Value.str empty), rfl⟩
  · rintro ⟨s, nonempty, rfl⟩
    exact ⟨rfl, by simpa using nonempty⟩

theorem everyKey_eq_nil_iff {rule : Rule} : everyKey rule (.map members) = [] ↔
    ∀ key value, (key, value) ∈ members → rule (.scalar key) = [] := by
  simp [everyKey]

theorem required_eq_nil_iff {keys : List String} : required keys (.map members) = [] ↔
    ∀ key ∈ keys, Keyed.contains members (.str key) = true := by
  simp [required, findingOf, finding]

theorem onlyMembers_eq_nil {known : List String}
    (all : ∀ member ∈ members, known.any (fun name => member.1.same name) = true) :
    onlyMembers known (.map members) = [] := by
  have none : extraKeys known members = [] := by
    have kept : ((Keyed.keys members).filter fun key => !known.any fun name => key.same name) = [] := by
      rw [List.filter_eq_nil_iff]
      intro key isKey
      obtain ⟨member, isMember, rfl⟩ := List.mem_map.mp isKey
      simp [all member isMember]
    rw [extraKeys, kept, List.mergeSort_nil]
  simp [onlyMembers, none]

theorem known_of_onlyMembers {known : List String} (only : onlyMembers known (.map members) = []) :
    ∀ key ∈ Keyed.keys members, known.any (fun name => key.same name) = true := by
  intro key isKey
  by_contra stranger
  have extra : key ∈ extraKeys known members := by
    rw [extraKeys, List.mem_mergeSort]
    exact List.mem_filter.mpr ⟨isKey, by simpa using stranger⟩
  simp only [onlyMembers] at only
  split at only
  · rename_i none
    rw [none] at extra
    contradiction
  · exact absurd only (List.cons_ne_nil _ _)

theorem isGivenText_of_route (kept : route (.map members) = [])
    (given : Keyed.get? members (.str "to") = some value) : value.IsGivenText := by
  simp only [route, all_eq_nil_iff] at kept
  have rules := properties_eq_nil_iff.mp (kept _ (.tail _ (.head _)))
  have targets := all_eq_nil_iff.mp (rules "to" _ (.head _) value given)
  exact isGivenText_iff.mp ⟨targets _ (.head _), targets _ (.tail _ (.head _))⟩

theorem isRoutingWord_iff :
    isRoutingWord value = true ↔ value = .str "out" ∨ value = .str "reply" := by
  unfold isRoutingWord
  split
  · simp
  · rename_i other
    simp only [Bool.false_eq_true, false_iff, not_or]
    exact ⟨other _, other _⟩

theorem isRouteList_iff : isRouteList value = true ↔
    ∃ items, value = .list items ∧ ∀ item ∈ items, route item = [] := by
  simp only [isRouteList, List.isEmpty_iff, all_eq_nil_iff, List.forall_mem_cons]
  constructor
  · rintro ⟨isArray, each, -⟩
    obtain ⟨items, rfl⟩ := isList_of_hasType isArray
    exact ⟨items, rfl, everyItem_eq_nil_iff.mp each⟩
  · rintro ⟨items, rfl, each⟩
    exact ⟨rfl, everyItem_eq_nil_iff.mpr each, by simp⟩

/-- Routing is null, a word, or a list of routes. -/
theorem routing_eq_nil_iff : routing value = [] ↔ value = .null ∨
    (value = .str "out" ∨ value = .str "reply") ∨
      ∃ items, value = .list items ∧ ∀ item ∈ items, route item = [] := by
  rw [← Value.isNull_iff, ← isRoutingWord_iff, ← isRouteList_iff, routing]
  cases value.isNull <;> cases isRoutingWord value <;> cases isRouteList value <;>
    simp [findingOf, finding]

theorem routing_list_eq_nil_iff {items : List Value} :
    routing (.list items) = [] ↔ ∀ item ∈ items, route item = [] := by
  rw [routing_eq_nil_iff]
  simp

/-- A member of a node keeps the rule for its key. -/
theorem member_of_node (name : String) (kept : node (.map fields) = []) {rule : Rule}
    (isRule : (name, rule) ∈ [("routing", routing), ("pack_alias", hasType [.string]),
      ("operation", hasType [.string]), ("telemetry", hasType [.object]),
      ("questions", hasType [.object]), ("template", hasType [.string])])
    (given : Keyed.get? fields (.str name) = some value) : rule value = [] := by
  simp only [node, all_eq_nil_iff] at kept
  have rules := properties_eq_nil_iff.mp (kept _ (.tail _ (.tail _ (.head _))))
  exact rules name rule isRule value given

theorem routing_of_node (kept : node (.map fields) = [])
    (given : Keyed.get? fields (.str "routing") = some value) : routing value = [] :=
  member_of_node "routing" kept (.head _) given

theorem telemetry_of_node (kept : node (.map fields) = [])
    (given : Keyed.get? fields (.str "telemetry") = some value) : hasType [.object] value = [] :=
  member_of_node "telemetry" kept (.tail _ (.tail _ (.tail _ (.head _)))) given

theorem member_of_document (kept : document (.map members) = []) {name : String} {rule : Rule}
    (isRule : (name, rule) ∈ documentMembers)
    (given : Keyed.get? members (.str name) = some value) : rule value = [] := by
  simp only [document, all_eq_nil_iff] at kept
  have rules := properties_eq_nil_iff.mp (kept _ (.tail _ (.tail _ (.head _))))
  exact rules name rule isRule value given

theorem required_of_document (name : String) (kept : document (.map members) = [])
    (isRequired : name ∈ ["id", "type", "nodes"]) :
    ∃ value, Keyed.get? members (.str name) = some value := by
  simp only [document, all_eq_nil_iff] at kept
  exact Keyed.contains_iff.mp (required_eq_nil_iff.mp (kept _ (.tail _ (.head _))) name isRequired)

theorem nodes_of_document (kept : document (.map members) = [])
    (given : Keyed.get? members (.str "nodes") = some (.map nodes)) :
    everyKey nonEmptyString (.map nodes) = [] ∧ everyMember node (.map nodes) = [] := by
  have isNodes : ("nodes", all [hasType [.object], everyKey nonEmptyString, everyMember node]) ∈
      documentMembers := by simp [documentMembers]
  have parts := all_eq_nil_iff.mp (member_of_document kept isNodes given)
  exact ⟨parts _ (.tail _ (.head _)), parts _ (.tail _ (.tail _ (.head _)))⟩

theorem node_of_document (kept : document (.map members) = [])
    (given : Keyed.get? members (.str "nodes") = some (.map nodes)) {id : Scalar}
    (member : (id, value) ∈ nodes) : node value = [] :=
  everyMember_eq_nil_iff.mp (nodes_of_document kept given).2 id value member

end Schema

end StepFlow
