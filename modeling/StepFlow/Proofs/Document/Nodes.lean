import StepFlow.Proofs.Document.Rereading
import StepFlow.Proofs.Flow.ComponentKey
import StepFlow.Proofs.Value.Fields

/-! Nodes as reading gives them. Main statements: what is read from a document is canonical, and
a canonical node comes back as it was when it is written and read again. -/
namespace StepFlow

open Outcome Keyed

/-- The keys that may stand beside the one for the component. -/
def Node.sideKeys : List String :=
  "routing" :: "pack_alias" :: "operation" :: reservedKeys

namespace Kind

/-- What the document of a node holds under its key. -/
def payload : Kind → Value
  | component _ _ _ payload => payload
  | questions fields => .map fields
  | template text => .str text
  | other _ payload => payload

/-- A component has a key of the pattern, and an operation where the key is to name none. What
is unknown has a key without a meaning of its own. -/
def IsCanonical : Kind → Prop
  | component key _ operation _ =>
    ComponentKey.isPattern key = true ∧
      (key = execKey → (operation.map isBlankText).getD true = false)
  | questions _ => True
  | template _ => True
  | other key _ => key ∉ Node.sideKeys ∧ key ∉ builtinKeys ∧ ComponentKey.isPattern key = false

/-- The alias and the operation are the kind's own, if it has a use for them. -/
def Takes (kind : Kind) (packAlias operation : Option String) : Prop :=
  match kind with
  | component _ ownAlias ownOperation _ => ownAlias = packAlias ∧ ownOperation = operation
  | _ => True

variable {kind : Kind}

theorem IsCanonical.key_not_mem_sideKeys (canonical : kind.IsCanonical) :
    kind.key ∉ Node.sideKeys := by
  have pointless : ∀ key ∈ Node.sideKeys, '.' ∉ key.toList := by decide
  cases kind with
  | component key packAlias operation payload =>
    intro side
    exact pointless key side (ComponentKey.point_mem_of_isPattern canonical.1)
  | questions fields =>
    change "questions" ∉ Node.sideKeys
    decide
  | template text =>
    change "template" ∉ Node.sideKeys
    decide
  | other key payload => exact canonical.1

end Kind

namespace Node

variable {id : Scalar} {key : String} {packAlias operation : Option String} {payload value : Value}
  {kind : Kind} {members : Members} {node : Node} {routing : List Route}
  {fields extras : List (String × Option Value)}

theorem of_kindOf (kinded : kindOf id key packAlias operation payload = .ok kind)
    (free : key ∉ sideKeys) :
    kind.IsCanonical ∧ kind.key = key ∧ kind.payload = payload ∧ kind.Takes packAlias operation := by
  unfold kindOf at kinded
  split at kinded
  · cases kinded
  rename_i named
  split at kinded
  · rename_i isQuestions
    split at kinded <;> cases kinded
    exact ⟨trivial, isQuestions.symm, rfl, trivial⟩
  rename_i notQuestions
  split at kinded
  · rename_i isTemplate
    split at kinded <;> cases kinded
    exact ⟨trivial, isTemplate.symm, rfl, trivial⟩
  rename_i notTemplate
  split at kinded
  · rename_i pattern
    cases kinded
    exact ⟨⟨pattern, by simpa using named⟩, rfl, rfl, rfl, rfl⟩
  · rename_i noPattern
    cases kinded
    have notBuiltin : key ∉ builtinKeys := by simp [builtinKeys, notQuestions, notTemplate]
    exact ⟨⟨free, notBuiltin, Bool.eq_false_iff.mpr noPattern⟩, rfl, rfl, trivial⟩

theorem kindOf_of_isCanonical (canonical : kind.IsCanonical)
    (takes : kind.Takes packAlias operation) :
    kindOf id kind.key packAlias operation kind.payload = .ok kind := by
  cases kind with
  | component key ownAlias ownOperation payload =>
    obtain ⟨pattern, named⟩ := canonical
    obtain ⟨rfl, rfl⟩ := takes
    have notBuiltin : key ∉ builtinKeys := fun builtin => by
      simp [ComponentKey.not_isPattern_of_builtin builtin] at pattern
    simp only [builtinKeys, List.mem_cons, List.not_mem_nil, or_false, not_or] at notBuiltin
    change kindOf id key ownAlias ownOperation payload = _
    have settled : ¬(key = execKey && (ownOperation.map isBlankText).getD true) = true := by
      simpa only [Bool.and_eq_true, decide_eq_true_eq, not_and, Bool.not_eq_true] using named
    unfold kindOf
    rw [if_neg settled, if_neg notBuiltin.1, if_neg notBuiltin.2, if_pos pattern]
  | questions fields =>
    have notExec : "questions" ≠ execKey := by decide
    simp [kindOf, Kind.key, Kind.payload, notExec]
  | template text =>
    have notExec : "template" ≠ execKey := by decide
    simp [kindOf, Kind.key, Kind.payload, notExec]
  | other key payload =>
    obtain ⟨-, notBuiltin, noPattern⟩ := canonical
    have notExec : key ≠ execKey := by
      rintro rfl
      simp [ComponentKey.isPattern_execKey] at noPattern
    simp only [builtinKeys, List.mem_cons, List.not_mem_nil, or_false, not_or] at notBuiltin
    simp [kindOf, Kind.key, Kind.payload, notExec, notBuiltin, noPattern]

/-! ### Fields beside the component -/

/-- Whether a member stands beside the component. -/
def isSide (member : Scalar × Value) : Bool :=
  sideKeys.any fun side => member.1.same side

theorem isSide_str : isSide (.str key, value) = true ↔ key ∈ sideKeys := by
  simp [isSide]

theorem componentMembers_eq_filter :
    componentMembers members = members.filter fun member => !isSide member := rfl

theorem componentMembers_ofFields (side : ∀ name ∈ fields.map Prod.fst, name ∈ sideKeys) :
    componentMembers (ofFields fields) = [] := by
  rw [componentMembers_eq_filter, List.filter_eq_nil_iff]
  intro member isMember
  obtain ⟨name, value, isField, rfl⟩ := mem_ofFields.mp isMember
  simp [isSide_str.mpr (side name (List.mem_map_of_mem isField))]

theorem componentMembers_cons (free : key ∉ sideKeys) :
    componentMembers ((.str key, payload) :: members) =
      (.str key, payload) :: componentMembers members := by
  have apart : ¬ isSide (.str key, payload) = true := mt isSide_str.mp free
  rw [componentMembers_eq_filter, List.filter_cons_of_pos (by simp [apart]),
    ← componentMembers_eq_filter]

theorem not_mem_sideKeys_of_componentMembers
    (lone : componentMembers members = [(.str key, payload)]) : key ∉ sideKeys := by
  have member : (Scalar.str key, payload) ∈ componentMembers members := by simp [lone]
  rw [componentMembers_eq_filter, List.mem_filter] at member
  exact fun side => by simp [isSide_str.mpr side] at member

/-- The reserved members, each under its key whether it is there or not. -/
def reservedFields (members : Members) : List (String × Option Value) :=
  reservedKeys.map fun key => (key, Keyed.get? members key)

theorem reservedMembers_eq_ofFields : reservedMembers members = ofFields (reservedFields members) := by
  simp only [ofFields, reservedFields, List.filterMap_map]
  rfl

theorem strayMembers_eq_ofFields : strayMembers packAlias operation =
    ofFields [("pack_alias", packAlias.map .str), ("operation", operation.map .str)] := by
  cases packAlias <;> cases operation <;> rfl

theorem reservedMembers_congr {others : Members}
    (same : ∀ key ∈ reservedKeys, Keyed.get? members (.str key) = Keyed.get? others (.str key)) :
    reservedMembers members = reservedMembers others :=
  List.filterMap_congr fun key reserved => by rw [same key reserved]

theorem get?_field (payload : Value) (free : key ∉ sideKeys) (names : (fields.map Prod.fst).Perm sideKeys)
    {name : String} {value : Option Value} (isField : (name, value) ∈ fields) :
    Keyed.get? ((Scalar.str key, payload) :: ofFields fields) (.str name) = value := by
  have nodup : (fields.map Prod.fst).Nodup := names.nodup_iff.mpr (by decide)
  have differ : key ≠ name := by
    rintro rfl
    exact free (names.subset (List.mem_map_of_mem isField))
  simp [get?_ofFields nodup isField, differ]

theorem eq_payload_of_get? (names : (fields.map Prod.fst).Perm sideKeys) {name : String}
    (free : name ∉ sideKeys)
    (found : Keyed.get? ((Scalar.str key, payload) :: ofFields fields) (.str name) = some value) :
    key = name ∧ payload = value := by
  have absent : Keyed.get? (ofFields fields) (.str name) = none :=
    get?_ofFields_of_not_mem fun member => free (names.subset member)
  simpa [absent] using found

/-- What reading gives for a component and the fields beside it. -/
theorem ofValue?_fields (free : key ∉ sideKeys) (names : (fields.map Prod.fst).Perm sideKeys)
    (isRouting : ("routing", some (routesToValue routing)) ∈ fields)
    (texts : ∀ route ∈ routing, route.LeadsByText)
    (isAlias : ("pack_alias", packAlias.map .str) ∈ fields)
    (isOperation : ("operation", operation.map .str) ∈ fields)
    (isReserved : ∀ field ∈ reservedFields members, field ∈ fields)
    (kinded : kindOf id key packAlias operation payload = .ok kind) :
    ofValue? id (.map ((.str key, payload) :: ofFields fields)) =
      .ok ⟨id, kind, routing, reservedMembers members ++
        if kind.isComponent then [] else strayMembers packAlias operation⟩ := by
  have readRouting := get?_field payload free names isRouting
  have readAlias := get?_field payload free names isAlias
  have readOperation := get?_field payload free names isOperation
  have lone : componentMembers ((.str key, payload) :: ofFields fields) = [(.str key, payload)] := by
    rw [componentMembers_cons free, componentMembers_ofFields fun _ => (names.subset ·)]
  have reserved : reservedMembers ((.str key, payload) :: ofFields fields) =
      reservedMembers members :=
    reservedMembers_congr fun name isReservedKey =>
      get?_field payload free names (isReserved _ (List.mem_map_of_mem isReservedKey))
  simp only [ofValue?, Members.get, readRouting, readAlias, readOperation, lone, reserved,
    Option.getD_some, parseRoutes_routesToValue texts, atNode, Except.mapError]
  cases packAlias <;> cases operation <;>
    simp [optionalText, bind, Except.bind, pure, Except.pure, kinded]

/-! ### Canonical nodes -/

/-- The extras are reserved members in their order, and behind them an alias and an operation
if the kind has no use for them. -/
def HasExtras (node : Node) (members : Members) (packAlias operation : Option String) : Prop :=
  node.extras = reservedMembers members ++
    if node.kind.isComponent then [] else strayMembers packAlias operation

structure IsCanonical (node : Node) : Prop where
  kind : node.kind.IsCanonical
  routing : ∀ route ∈ node.routing, route.LeadsByText
  extras : ∃ members packAlias operation, node.HasExtras members packAlias operation

theorem parts_of_ofValue? (read : ofValue? id (.map members) = .ok node) :
    node.kind.IsCanonical ∧ parseRoutes (Members.get members "routing") = .ok node.routing ∧
      ∃ packAlias operation, node.HasExtras members packAlias operation := by
  simp only [ofValue?, bind_eq_ok, atNode, mapError_eq_ok] at read
  obtain ⟨routing, parsed, packAlias, -, operation, -, read⟩ := read
  split at read
  · rename_i key payload lone
    simp only [bind_eq_ok, pure_eq_ok] at read
    obtain ⟨kind, kinded, rfl⟩ := read
    have free := not_mem_sideKeys_of_componentMembers lone
    exact ⟨(of_kindOf kinded free).1, parsed, packAlias, operation, rfl⟩
  · cases read
  · cases read

theorem isCanonical_of_ofValue? (read : ofValue? id value = .ok node) : node.IsCanonical := by
  obtain ⟨-, -, members, rfl, -⟩ := of_ofValue? read
  obtain ⟨kind, parsed, packAlias, operation, extras⟩ := parts_of_ofValue? read
  exact ⟨kind, leadsByText_of_parseRoutes parsed, members, packAlias, operation, extras⟩

/-- A node in its written form: the component first, the other fields in some order. -/
structure IsWrittenAs (node : Node) (fields : List (String × Option Value)) (members : Members)
    (packAlias operation : Option String) : Prop where
  written : node.toMembers = (.str node.kind.key, node.kind.payload) :: ofFields fields
  names : (fields.map Prod.fst).Perm sideKeys
  isRouting : ("routing", some (routesToValue node.routing)) ∈ fields
  isAlias : ("pack_alias", packAlias.map .str) ∈ fields
  isOperation : ("operation", operation.map .str) ∈ fields
  isReserved : ∀ field ∈ reservedFields members, field ∈ fields
  takes : node.kind.Takes packAlias operation
  extras : node.HasExtras members packAlias operation

/-- The extras come behind the members of the kind and the routing, and displace none of them. -/
theorem toMembers_eq_cons (free : node.kind.key ∉ sideKeys)
    (isKind : kindMembers node.kind ++ [(.str "routing", routesToValue node.routing)] =
      (.str node.kind.key, node.kind.payload) :: ofFields fields)
    (isExtras : node.extras = ofFields extras)
    (names : ((fields ++ extras).map Prod.fst).Perm sideKeys) :
    node.toMembers = (.str node.kind.key, node.kind.payload) :: ofFields (fields ++ extras) := by
  have nodup : ((fields ++ extras).map Prod.fst).Nodup := names.nodup_iff.mpr (by decide)
  have distinct : Distinct (ofFields ((node.kind.key, some node.kind.payload) :: (fields ++ extras))) :=
    distinct_ofFields (List.nodup_cons.mpr ⟨fun member => free (names.subset member), nodup⟩)
  have spelled : ofFields ((node.kind.key, some node.kind.payload) :: (fields ++ extras)) =
      ((.str node.kind.key, node.kind.payload) :: ofFields fields) ++ ofFields extras := by
    rw [ofFields_cons, ofFields_append]
    rfl
  rw [spelled] at distinct
  have base : Distinct ((Scalar.str node.kind.key, node.kind.payload) :: ofFields fields) :=
    List.Pairwise.sublist (List.sublist_append_left _ _) distinct
  rw [toMembers, isKind, isExtras, ofList_eq_self base, update_eq_append distinct, ofFields_append,
    List.cons_append]

theorem map_fst_reservedFields : (reservedFields members).map Prod.fst = reservedKeys := by
  simp [reservedFields, Function.comp_def]

/-- The reserved members are found among the extras. -/
theorem HasExtras.get? (extras : node.HasExtras members packAlias operation)
    (reserved : key ∈ reservedKeys) :
    Keyed.get? node.extras (.str key) = Keyed.get? members (.str key) := by
  have nodup : ((reservedFields members).map Prod.fst).Nodup := by
    rw [map_fst_reservedFields]
    decide
  have isField : (key, Keyed.get? members (.str key)) ∈ reservedFields members :=
    List.mem_map_of_mem reserved
  have apart : ∀ name ∈ reservedKeys, name ≠ "pack_alias" ∧ name ≠ "operation" := by decide
  have stray : Keyed.get? (strayMembers packAlias operation) (.str key) = none := by
    rw [strayMembers_eq_ofFields]
    exact get?_ofFields_of_not_mem (by simp [apart key reserved])
  rw [extras, get?_append, reservedMembers_eq_ofFields, get?_ofFields nodup isField]
  split
  · simp
  · simp [stray]

theorem kindMembers_of_not_isComponent (plain : kind.isComponent = false) :
    kindMembers kind = [(.str kind.key, kind.payload)] := by
  cases kind with
  | component => cases plain
  | questions | template | other => rfl

/-- The fields beside a component, whose alias and operation are its own. -/
def ownFields (routing : List Route) (members : Members) (packAlias operation : Option String) :
    List (String × Option Value) :=
  [("pack_alias", packAlias.map .str), ("operation", operation.map .str),
    ("routing", some (routesToValue routing))] ++ reservedFields members

/-- The fields of other nodes, whose alias and operation are extras. -/
def strayFields (routing : List Route) (members : Members) (packAlias operation : Option String) :
    List (String × Option Value) :=
  [("routing", some (routesToValue routing))] ++
    (reservedFields members ++ [("pack_alias", packAlias.map .str), ("operation", operation.map .str)])

theorem isWrittenAs_ownFields (free : node.kind.key ∉ sideKeys)
    (kind : node.kind = .component key packAlias operation payload)
    (extras : node.extras = reservedMembers members) :
    node.IsWrittenAs (ownFields node.routing members packAlias operation)
      members packAlias operation := by
  have names : ((ownFields node.routing members packAlias operation).map Prod.fst).Perm sideKeys := by
    rw [ownFields, List.map_append, map_fst_reservedFields]
    change ("pack_alias" :: "operation" :: "routing" :: reservedKeys).Perm sideKeys
    decide
  refine ⟨toMembers_eq_cons free ?_ (extras.trans reservedMembers_eq_ofFields) names, names,
    by simp [ownFields], by simp [ownFields], by simp [ownFields],
    fun field member => List.mem_append_right _ member, ?_, ?_⟩
  · rw [kind]
    cases packAlias <;> cases operation <;> rfl
  · rw [kind]
    exact ⟨rfl, rfl⟩
  · rw [HasExtras, kind, extras]
    exact (List.append_nil _).symm

theorem isWrittenAs_strayFields (free : node.kind.key ∉ sideKeys)
    (plain : node.kind.isComponent = false)
    (extras : node.extras = reservedMembers members ++ strayMembers packAlias operation) :
    node.IsWrittenAs (strayFields node.routing members packAlias operation)
      members packAlias operation := by
  have names : ((strayFields node.routing members packAlias operation).map Prod.fst).Perm sideKeys := by
    rw [strayFields, List.map_append, List.map_append, map_fst_reservedFields]
    change ("routing" :: (reservedKeys ++ ["pack_alias", "operation"])).Perm sideKeys
    decide
  refine ⟨toMembers_eq_cons free ?_ ?_ names, names, by simp [strayFields], by simp [strayFields],
    by simp [strayFields], fun field member => by simp [strayFields, member], ?_, ?_⟩
  · rw [kindMembers_of_not_isComponent plain]
    rfl
  · rw [extras, ofFields_append, reservedMembers_eq_ofFields, strayMembers_eq_ofFields]
  · cases kind : node.kind with
    | component => simp [kind, Kind.isComponent] at plain
    | questions | template | other => trivial
  · rw [HasExtras, extras, plain]
    rfl

theorem exists_isWrittenAs (isKind : node.kind.IsCanonical)
    (extras : node.HasExtras members packAlias operation) :
    ∃ fields packAlias operation, node.IsWrittenAs fields members packAlias operation := by
  have free := isKind.key_not_mem_sideKeys
  unfold HasExtras at extras
  by_cases isComponent : node.kind.isComponent = true
  · rw [if_pos isComponent, List.append_nil] at extras
    cases kind : node.kind with
    | component key packAlias operation payload =>
      exact ⟨_, _, _, isWrittenAs_ownFields free kind extras⟩
    | questions | template | other => simp [kind, Kind.isComponent] at isComponent
  · rw [if_neg isComponent] at extras
    exact ⟨_, _, _, isWrittenAs_strayFields free (Bool.eq_false_iff.mpr isComponent) extras⟩

/-- A canonical node comes back as it was. -/
theorem IsCanonical.ofValue?_toMembers (canonical : node.IsCanonical) :
    ofValue? node.id (.map node.toMembers) = .ok node := by
  obtain ⟨members, _, _, extras⟩ := canonical.extras
  obtain ⟨fields, packAlias, operation, form⟩ := exists_isWrittenAs canonical.kind extras
  have free := canonical.kind.key_not_mem_sideKeys
  have kinded : kindOf node.id node.kind.key packAlias operation node.kind.payload = .ok node.kind :=
    kindOf_of_isCanonical canonical.kind form.takes
  rw [form.written, ofValue?_fields free form.names form.isRouting canonical.routing form.isAlias
    form.isOperation form.isReserved kinded, ← form.extras]

end Node

end StepFlow
