import StepFlow.Proofs.Document.Graphs

/-! What is written of a document that keeps the rules. Main statement: it keeps them too, and
read again it gives the graph of the document, without the empty texts and the empty mapping of
its header. -/
namespace StepFlow

open Outcome Keyed

/-! ### Fields -/

namespace Schema

variable {rules : List (String × Rule)} {fields : List (String × Option Value)}

/-- Each field has the rule in its place. -/
def Keep (rules : List (String × Rule)) (fields : List (String × Option Value)) : Prop :=
  List.Forall₂ (fun rule field => rule.1 = field.1 ∧ ∀ value ∈ field.2, rule.2 value = []) rules fields

theorem Keep.names (keep : Keep rules fields) : rules.map Prod.fst = fields.map Prod.fst := by
  induction keep with
  | nil => rfl
  | cons first _ ih => rw [List.map_cons, List.map_cons, first.1, ih]

theorem Keep.exists_field (keep : Keep rules fields) {rule : String × Rule} (isRule : rule ∈ rules) :
    ∃ field, (rule.1, field) ∈ fields ∧ ∀ value ∈ field, rule.2 value = [] := by
  induction keep with
  | nil => contradiction
  | @cons _ first _ _ kept _ ih =>
    rcases List.mem_cons.mp isRule with rfl | later
    · exact ⟨first.2, kept.1 ▸ .head _, kept.2⟩
    · obtain ⟨field, isField, keeps⟩ := ih later
      exact ⟨field, .tail _ isField, keeps⟩

theorem Keep.properties (keep : Keep rules fields) (nodup : (fields.map Prod.fst).Nodup) :
    properties rules (.map (ofFields fields)) = [] := by
  rw [properties_eq_nil_iff]
  intro name rule isRule value found
  obtain ⟨field, isField, keeps⟩ := keep.exists_field isRule
  rw [get?_ofFields nodup isField] at found
  exact keeps value found

theorem Keep.onlyMembers (keep : Keep rules fields) :
    onlyMembers (rules.map Prod.fst) (.map (ofFields fields)) = [] := by
  refine onlyMembers_eq_nil fun member isMember => ?_
  obtain ⟨name, value, isField, rfl⟩ := mem_ofFields.mp isMember
  have known : name ∈ rules.map Prod.fst := keep.names ▸ List.mem_map_of_mem isField
  simpa using known

theorem hasType_flag {flag : Bool} {value : Value}
    (isFlag : (if flag then some (Value.bool true) else none) = some value) :
    hasType [.boolean] value = [] := by
  split at isFlag <;> cases isFlag
  rfl

theorem hasType_text {text : Option String} {value : Value} (isText : text.map Value.str = some value) :
    hasType [.string] value = [] := by
  obtain ⟨s, -, rfl⟩ := Option.map_eq_some_iff.mp isText
  rfl

end Schema

/-! ### Routes -/

/-- The target, if there is one, names something. -/
def Route.LeadsByName (route : Route) : Prop :=
  ∀ target, route.target = some target → (Value.scalar target).IsGivenText

namespace Route

variable {route : Route} {routes : List Route} {members : Members} {value : Value}

/-- The fields of a route. -/
def fields (route : Route) : List (String × Option Value) :=
  [("to", route.target.map .scalar), ("out", if route.out then some (.bool true) else none),
    ("status", route.status.map .str), ("reply", if route.reply then some (.bool true) else none)]

theorem toMembers_eq_ofFields : route.toMembers = ofFields route.fields := by
  obtain ⟨target, out, status, reply⟩ := route
  cases target <;> cases out <;> cases status <;> cases reply <;> rfl

theorem rule_toMembers (named : route.LeadsByName) : Schema.route (.map route.toMembers) = [] := by
  have target : ∀ value, route.target.map Value.scalar = some value →
      Schema.hasType [.string] value = [] ∧ Schema.nonEmptyString value = [] := by
    intro value isTarget
    obtain ⟨id, isId, rfl⟩ := Option.map_eq_some_iff.mp isTarget
    exact Schema.isGivenText_iff.mpr (named id isId)
  have keep : Schema.Keep [("to", Schema.all [Schema.hasType [.string], Schema.nonEmptyString]),
      ("out", Schema.hasType [.boolean]), ("status", Schema.hasType [.string]),
      ("reply", Schema.hasType [.boolean])] route.fields :=
    .cons ⟨rfl, by simpa using target⟩ <| .cons ⟨rfl, fun _ => Schema.hasType_flag⟩ <|
      .cons ⟨rfl, fun _ => Schema.hasType_text⟩ <| .cons ⟨rfl, fun _ => Schema.hasType_flag⟩ .nil
  have nodup : (route.fields.map Prod.fst).Nodup := by
    change ["to", "out", "status", "reply"].Nodup
    decide
  have isMap : Schema.hasType [.object] (.map (ofFields route.fields)) = [] := rfl
  rw [toMembers_eq_ofFields, Schema.route, Schema.all_eq_nil_iff]
  simpa only [List.forall_mem_cons, List.not_mem_nil, false_implies, implies_true, and_true] using
    ⟨isMap, keep.properties nodup, keep.onlyMembers⟩

/-- Routes of a document that keep the rule lead by names. -/
theorem leadsByName_of_ofValue? (kept : Schema.route value = []) (read : ofValue? value = .ok route) :
    route.LeadsByName := by
  obtain ⟨members, rfl, rfl⟩ := of_ofValue? read
  intro target isTarget
  obtain ⟨s, rfl, found⟩ := target_ofMembers isTarget
  exact Schema.isGivenText_of_route kept found

end Route

section

variable {routes : List Route} {value : Value}

theorem leadsByName_of_parseRoutes (kept : Schema.routing value = [])
    (parsed : parseRoutes value = .ok routes) : ∀ route ∈ routes, route.LeadsByName := by
  intro route member
  rcases of_mem_parseRoutes parsed member with none | ⟨items, item, rfl, isItem, once⟩
  · exact fun target isTarget => nomatch none.symm.trans isTarget
  · exact Route.leadsByName_of_ofValue? (Schema.routing_list_eq_nil_iff.mp kept item isItem) once

theorem routing_routesToValue (named : ∀ route ∈ routes, route.LeadsByName) :
    Schema.routing (routesToValue routes) = [] := by
  unfold routesToValue
  split
  · rfl
  split
  · rfl
  · rw [Schema.routing_list_eq_nil_iff]
    intro item isItem
    obtain ⟨route, member, rfl⟩ := List.mem_map.mp isItem
    exact Route.rule_toMembers (named route member)

end

/-! ### Nodes -/

theorem Kind.IsCanonical.of_builtin {kind : Kind} (canonical : kind.IsCanonical)
    (builtin : kind.key ∈ builtinKeys) :
    (∃ fields, kind = .questions fields) ∨ ∃ text, kind = .template text := by
  cases kind with
  | component key packAlias operation payload =>
    have noPattern : ComponentKey.isPattern key = false :=
      ComponentKey.not_isPattern_of_builtin builtin
    simp [IsCanonical, noPattern] at canonical
  | questions fields => exact .inl ⟨fields, rfl⟩
  | template text => exact .inr ⟨text, rfl⟩
  | other key payload => exact absurd builtin canonical.2.1

namespace Node

variable {id : Scalar} {node : Node} {members : Members}

theorem leadsByName_of_ofValue? (kept : Schema.node (.map members) = [])
    (read : ofValue? id (.map members) = .ok node) : ∀ route ∈ node.routing, route.LeadsByName := by
  refine leadsByName_of_parseRoutes ?_ (parts_of_ofValue? read).2.1
  unfold Members.get
  cases given : Keyed.get? members (.str "routing") with
  | none => rfl
  | some value => exact Schema.routing_of_node kept given

/-- Telemetry among the extras is a mapping. -/
def KeepsTelemetry (node : Node) : Prop :=
  ∀ value, Keyed.get? node.extras (.str "telemetry") = some value → Schema.hasType [.object] value = []

/-- A canonical node is written as one that keeps the rule exactly if its routes lead by names. -/
theorem IsCanonical.rule_toMembers_iff (canonical : node.IsCanonical)
    (telemetry : node.KeepsTelemetry) :
    Schema.node (.map node.toMembers) = [] ↔ ∀ route ∈ node.routing, route.LeadsByName := by
  obtain ⟨members, _, _, extras⟩ := canonical.extras
  obtain ⟨fields, packAlias, operation, form⟩ := exists_isWrittenAs canonical.kind extras
  have free := canonical.kind.key_not_mem_sideKeys
  have field {name value} (isField : (name, value) ∈ fields) :=
    get?_field node.kind.payload free form.names isField
  rw [form.written]
  constructor
  · intro kept
    exact leadsByName_of_parseRoutes (Schema.routing_of_node kept (field form.isRouting))
      (parseRoutes_routesToValue canonical.routing)
  intro named
  rw [Schema.node, Schema.all_eq_nil_iff]
  simp only [List.forall_mem_cons, List.not_mem_nil, false_implies, implies_true, and_true]
  refine ⟨rfl, rfl, Schema.properties_eq_nil_iff.mpr fun name rule isRule value found => ?_⟩
  simp only [List.mem_cons, Prod.mk.injEq, List.not_mem_nil, or_false] at isRule
  rcases isRule with ⟨rfl, rfl⟩ | ⟨rfl, rfl⟩ | ⟨rfl, rfl⟩ | ⟨rfl, rfl⟩ | ⟨rfl, rfl⟩ | ⟨rfl, rfl⟩
  · rw [field form.isRouting] at found
    cases found
    exact routing_routesToValue named
  · rw [field form.isAlias] at found
    exact Schema.hasType_text found
  · rw [field form.isOperation] at found
    exact Schema.hasType_text found
  · have reserved : ("telemetry", Keyed.get? members (.str "telemetry")) ∈ reservedFields members :=
      .head _
    rw [field (form.isReserved _ reserved), ← extras.get? (.head _)] at found
    exact telemetry value found
  -- the key of the component is the only one left that a rule may name
  · obtain ⟨isQuestions, isPayload⟩ := eq_payload_of_get? form.names (by decide) found
    rcases canonical.kind.of_builtin (by rw [isQuestions]; decide) with ⟨_, kind⟩ | ⟨_, kind⟩
    · rw [← isPayload, kind]
      rfl
    · simp [kind, Kind.key] at isQuestions
  · obtain ⟨isTemplate, isPayload⟩ := eq_payload_of_get? form.names (by decide) found
    rcases canonical.kind.of_builtin (by rw [isTemplate]; decide) with ⟨_, kind⟩ | ⟨_, kind⟩
    · simp [kind, Kind.key] at isTemplate
    · rw [← isPayload, kind]
      rfl

theorem keepsTelemetry_of_ofValue? (kept : Schema.node (.map members) = [])
    (read : ofValue? id (.map members) = .ok node) : node.KeepsTelemetry := by
  obtain ⟨-, -, packAlias, operation, extras⟩ := parts_of_ofValue? read
  intro value found
  rw [extras.get? (.head _)] at found
  exact Schema.telemetry_of_node kept found

/-- A node that keeps the rule is written as one that does. -/
theorem rule_toMembers (kept : Schema.node (.map members) = [])
    (read : ofValue? id (.map members) = .ok node) : Schema.node (.map node.toMembers) = [] :=
  ((isCanonical_of_ofValue? read).rule_toMembers_iff (keepsTelemetry_of_ofValue? kept read)).mpr
    (leadsByName_of_ofValue? kept read)

end Node

/-! ### Documents -/

namespace Graph

variable {document : Members} {graph : Graph} {name : String} {value : Value}

/-- The ids under which a document holds its nodes are texts. -/
def KeysNodesByText (document : Members) : Prop :=
  ∀ nodes, Keyed.get? document (.str "nodes") = some (.map nodes) →
    ∀ id value, (id, value) ∈ nodes → ∃ s, id = .str s

theorem namesNodes_of_kept (kept : Schema.document (.map document) = [])
    (texts : KeysNodesByText document) : NamesNodes document := by
  intro nodes given id value member
  obtain ⟨s, rfl⟩ := texts nodes given id value member
  have rule := Schema.everyKey_eq_nil_iff.mp (Schema.nodes_of_document kept given).1 _ value member
  exact Schema.isGivenText_iff.mp ⟨rfl, rule⟩

theorem memberOf_eq_ok_iff : memberOf document name = .ok value ↔
    Keyed.get? document (.str name) = some value := by
  unfold memberOf
  cases Keyed.get? document (.str name) <;> simp

/-- What is not null was found. -/
theorem get?_of_get (found : Members.get document (.str name) = value) (something : value ≠ .null) :
    Keyed.get? document (.str name) = some value := by
  unfold Members.get at found
  cases given : Keyed.get? document (.str name) with
  | none => exact absurd (given ▸ found).symm something
  | some other => rw [← found, given, Option.getD_some]

theorem whenGiven_eq_some_iff {other : Value} :
    whenGiven value = some other ↔ value = other ∧ value.isTruthy = true := by
  simp only [whenGiven, Option.filter_eq_some_iff, Option.some.injEq]
  exact and_congr_right fun same => by rw [same]

/-! #### Entrypoints -/

theorem isGivenText_of_mem_declared (kept : Schema.document (.map document) = [])
    {declared : Members} (isDeclared : declaredEntrypoints document = .ok declared) :
    ∀ entry ∈ declared, entry.2.IsGivenText := by
  intro entry member
  unfold declaredEntrypoints at isDeclared
  split at isDeclared
  · cases isDeclared
    contradiction
  · rename_i given
    cases isDeclared
    have isRule : ("entrypoints", Schema.all [Schema.hasType [.object], Schema.everyMember
        (Schema.all [Schema.hasType [.string], Schema.nonEmptyString])]) ∈ Schema.documentMembers := by
      simp [Schema.documentMembers]
    have rule := Schema.member_of_document kept isRule (Option.filter_eq_some_iff.mp given).1
    have each := Schema.everyMember_eq_nil_iff.mp
      (Schema.all_eq_nil_iff.mp rule _ (.tail _ (.head _))) entry.1 entry.2 member
    simp only [Schema.all_eq_nil_iff] at each
    exact Schema.isGivenText_iff.mp ⟨each _ (.head _), each _ (.tail _ (.head _))⟩
  · cases isDeclared

theorem isGivenText_of_start (kept : Schema.document (.map document) = [])
    (given : given? document "start" = some value) : value.IsGivenText := by
  obtain ⟨found, given⟩ := Option.filter_eq_some_iff.mp given
  have isRule : ("start", Schema.hasType [.string, .null]) ∈ Schema.documentMembers := by
    simp [Schema.documentMembers]
  have rule := Schema.member_of_document kept isRule found
  rcases Schema.hasType_null_iff.mp rule with text | rfl
  · obtain ⟨s, rfl⟩ := Schema.isText_of_hasType text
    exact Value.isGivenText_of rfl given
  · cases given

theorem isGivenText_of_mem_entrypoints (kept : Schema.document (.map document) = [])
    (texts : KeysNodesByText document) (read : ofDocument? (.map document) = .ok graph) :
    ∀ entry ∈ graph.entrypoints, entry.2.IsGivenText := by
  intro entry member
  obtain ⟨nodes, isNodes, -⟩ := nodes_of_ofDocument? read
  rcases of_mem_resolveEntrypoints (entrypoints_of_ofDocument? read) member with
    ⟨target, isStart, rfl⟩ | ⟨declared, given, isDeclared, isGiven, -, same⟩
  · rcases defaultTarget?_cases isNodes (namesNodes_of_kept kept texts) isStart with
      ⟨none, -⟩ | ⟨start, isSome, origin⟩
    · cases none
    · cases isSome
      exact origin.elim (isGivenText_of_start kept) id
  · exact same ▸ isGivenText_of_mem_declared kept isDeclared given isGiven

theorem isEntered_of_kept (kept : Schema.document (.map document) = [])
    (texts : KeysNodesByText document) (read : ofDocument? (.map document) = .ok graph)
    (enterable : given? document "nodes" ≠ none ∨ given? document "start" ≠ none ∨
      given? document "entrypoints" = none) : graph.IsEntered := by
  refine isEntered_of_ofDocument? read (namesNodes_of_kept kept texts) ?_ fun noStart => ?_
  · intro declared isDeclared entry member _
    exact (isGivenText_of_mem_declared kept isDeclared entry member).isTruthy
  · obtain ⟨nodes, isNodes, -⟩ := nodes_of_ofDocument? read
    rcases defaultTarget?_cases isNodes (namesNodes_of_kept kept texts) noStart with
      ⟨-, -, start, empty⟩ | ⟨_, isSome, -⟩
    · have undeclared := (enterable.resolve_left (· empty)).resolve_left (· start)
      obtain ⟨start, declared, isStart, isDeclared, entries⟩ :=
        resolveEntrypoints_eq_ok_iff.mp (entrypoints_of_ofDocument? read)
      cases noStart.symm.trans isStart
      rw [declaredEntrypoints, undeclared] at isDeclared
      cases isDeclared
      exact entries
    · cases isSome

/-! #### Header -/

/-- The graph without the empty texts and the empty mapping of its header. -/
def settled (graph : Graph) : Graph :=
  let header := graph.header
  { graph with
    header := { header with
      title := if header.title = .str "" then .null else header.title
      description := if header.description = .str "" then .null else header.description
      info := if header.info = .map [] then .null else header.info } }

theorem getD_whenGiven {empty : Value} (falsy : empty.isTruthy = false)
    (shape : value = .null ∨ value = empty ∨ value.isTruthy = true) :
    (whenGiven value).getD .null = if value = empty then .null else value := by
  rcases shape with rfl | rfl | given
  · exact (ite_self _).symm
  · rw [if_pos rfl, whenGiven, Option.filter_some_neg (by simp [falsy]), Option.getD_none]
  · have differ : value ≠ empty := by
      rintro rfl
      simp [falsy] at given
    rw [if_neg differ, whenGiven_of_isTruthy given, Option.getD_some]

theorem text_of_kept (name : String) (kept : Schema.document (.map document) = [])
    (isRule : (name, Schema.hasType [.string]) ∈ Schema.documentMembers) :
    Members.get document (.str name) = .null ∨ Members.get document (.str name) = .str "" ∨
      (Members.get document (.str name)).isTruthy = true := by
  unfold Members.get
  cases given : Keyed.get? document (.str name) with
  | none => exact .inl rfl
  | some value =>
    obtain ⟨s, rfl⟩ := Schema.isText_of_hasType (Schema.member_of_document kept isRule given)
    by_cases empty : s = ""
    · exact .inr (.inl (by rw [empty, Option.getD_some]))
    · exact .inr (.inr (by simp [Value.isTruthy, Scalar.isTruthy, empty]))

theorem info_of_kept (kept : Schema.document (.map document) = []) :
    Members.get document (.str "meta") = .null ∨ Members.get document (.str "meta") = .map [] ∨
      (Members.get document (.str "meta")).isTruthy = true := by
  unfold Members.get
  cases given : Keyed.get? document (.str "meta") with
  | none => exact .inl rfl
  | some value =>
    have isRule : ("meta", Schema.hasType [.object, .null]) ∈ Schema.documentMembers := by
      simp [Schema.documentMembers]
    rcases Schema.hasType_null_iff.mp (Schema.member_of_document kept isRule given) with object | rfl
    · obtain ⟨members, rfl⟩ := Schema.isMap_of_hasType object
      cases members with
      | nil => exact .inr (.inl rfl)
      | cons => exact .inr (.inr rfl)
    · exact .inl rfl

theorem writtenHeader_of_kept (kept : Schema.document (.map document) = [])
    (read : ofDocument? (.map document) = .ok graph) :
    writtenHeader graph.header = graph.settled.header := by
  obtain ⟨nodes, id, kind, entries, parameters, tags, -, -, -, -, -, -, rfl⟩ :=
    eq_ofParts_of_ofDocument? read
  have title := text_of_kept "title" kept (by simp [Schema.documentMembers])
  have description := text_of_kept "description" kept (by simp [Schema.documentMembers])
  simp only [writtenHeader, settled, ofParts]
  rw [getD_whenGiven rfl title, getD_whenGiven rfl description, getD_whenGiven rfl (info_of_kept kept)]
  rfl

/-! #### Fields -/

theorem tags_of_kept (kept : Schema.document (.map document) = []) {tags : List Value}
    (isTags : ((given? document "tags").map Value.items?).getD (.ok []) = .ok tags) :
    Schema.all [Schema.hasType [.array], Schema.everyItem (Schema.hasType [.string])]
      (.list tags) = [] := by
  cases given : given? document "tags" with
  | none =>
    rw [given] at isTags
    cases isTags
    rfl
  | some value =>
    have isRule : ("tags", Schema.all [Schema.hasType [.array],
        Schema.everyItem (Schema.hasType [.string])]) ∈ Schema.documentMembers := by
      simp [Schema.documentMembers]
    have rule := Schema.member_of_document kept isRule (Option.filter_eq_some_iff.mp given).1
    obtain ⟨items, rfl⟩ := Schema.isList_of_hasType (Schema.all_eq_nil_iff.mp rule _ (.head _))
    rw [given] at isTags
    cases isTags
    exact rule

theorem nodes_of_rules (each : ∀ node ∈ graph.nodes,
    Schema.nonEmptyString (.scalar node.id) = [] ∧ Schema.node (.map node.toMembers) = []) :
    Schema.all [Schema.hasType [.object], Schema.everyKey Schema.nonEmptyString,
      Schema.everyMember Schema.node]
      (.map (graph.nodes.map fun node => (node.id, .map node.toMembers))) = [] := by
  simp only [Schema.all_eq_nil_iff, List.forall_mem_cons, List.not_mem_nil, false_implies,
    implies_true, and_true, Schema.everyKey_eq_nil_iff, Schema.everyMember_eq_nil_iff]
  refine ⟨rfl, fun key value isMember => ?_, fun key value isMember => ?_⟩
  all_goals
    obtain ⟨node, member, same⟩ := List.mem_map.mp isMember
    cases same
  · exact (each node member).1
  · exact (each node member).2

theorem nodes_of_kept (kept : Schema.document (.map document) = [])
    (read : ofDocument? (.map document) = .ok graph) :
    Schema.all [Schema.hasType [.object], Schema.everyKey Schema.nonEmptyString,
      Schema.everyMember Schema.node]
      (.map (graph.nodes.map fun node => (node.id, .map node.toMembers))) = [] := by
  have each : ∀ node ∈ graph.nodes, Schema.nonEmptyString (.scalar node.id) = [] ∧
      Schema.node (.map node.toMembers) = [] := by
    intro node member
    obtain ⟨members, value, given, isMember, once⟩ := exists_ofValue?_of_ofDocument? read member
    obtain ⟨-, -, body, rfl, -⟩ := Node.of_ofValue? once
    exact ⟨Schema.everyKey_eq_nil_iff.mp (Schema.nodes_of_document kept given).1 _ _ isMember,
      Node.rule_toMembers (Schema.node_of_document kept given isMember) once⟩
  exact nodes_of_rules each

theorem rule_of_memberOf (kept : Schema.document (.map document) = []) {rule : Schema.Rule}
    (isRule : (name, rule) ∈ Schema.documentMembers) (found : memberOf document name = .ok value) :
    ∀ other ∈ some value, rule other = [] := by
  intro other same
  obtain rfl := Option.some.inj same
  exact Schema.member_of_document kept isRule (memberOf_eq_ok_iff.mp found)

theorem rule_of_whenGiven (kept : Schema.document (.map document) = []) {rule : Schema.Rule}
    (isRule : (name, rule) ∈ Schema.documentMembers) :
    ∀ value ∈ whenGiven (Members.get document (.str name)), rule value = [] := by
  intro value isValue
  obtain ⟨same, given⟩ := whenGiven_eq_some_iff.mp isValue
  refine Schema.member_of_document kept isRule (get?_of_get same ?_)
  rintro rfl
  rw [same] at given
  cases given

theorem rule_whenGiven {rule : Schema.Rule} (kept : rule value = []) :
    ∀ other ∈ whenGiven value, rule other = [] := by
  intro other given
  rwa [← (whenGiven_eq_some_iff.mp given).1]

theorem version_of_kept (kept : Schema.document (.map document) = []) :
    ∀ value ∈ (some (Members.get document (.str "schema_version"))).filter fun value => !value.isNull,
      Schema.all [Schema.hasType [.integer, .null], Schema.atLeastOne] value = [] := by
  intro value isValue
  obtain ⟨same, something⟩ := Option.filter_eq_some_iff.mp isValue
  have isRule : ("schema_version", Schema.all [Schema.hasType [.integer, .null],
      Schema.atLeastOne]) ∈ Schema.documentMembers := by
    simp [Schema.documentMembers]
  refine Schema.member_of_document kept isRule (get?_of_get (Option.some.inj same) ?_)
  rintro rfl
  cases something

theorem start_of_texts (texts : ∀ entry ∈ graph.entrypoints, entry.2.str?.isSome = true) :
    ∀ value ∈ graph.entry?.bind fun entry => whenGiven entry.2,
      Schema.hasType [.string, .null] value = [] := by
  intro value isValue
  obtain ⟨entry, first, given⟩ := Option.bind_eq_some_iff.mp isValue
  obtain ⟨rfl, truthy⟩ := whenGiven_eq_some_iff.mp given
  obtain ⟨s, -, same⟩ := Value.isGivenText_of (texts entry (List.mem_of_head? first)) truthy
  rw [same]
  rfl

theorem entrypoints_of_texts (texts : ∀ entry ∈ graph.entrypoints, entry.2.str?.isSome = true) :
    Schema.all [Schema.hasType [.object],
      Schema.everyMember (Schema.all [Schema.hasType [.string], Schema.nonEmptyString])]
      (.map graph.namedEntrypoints) = [] := by
  have isMap : Schema.hasType [.object] (.map graph.namedEntrypoints) = [] := rfl
  rw [Schema.all_eq_nil_iff]
  simp only [List.forall_mem_cons, isMap, true_and, List.not_mem_nil, false_implies, implies_true,
    and_true, Schema.everyMember_eq_nil_iff, Schema.all_eq_nil_iff]
  intro name target member
  obtain ⟨isEntry, isNamed⟩ := List.mem_filter.mp member
  simp only [Bool.and_eq_true] at isNamed
  exact Schema.isGivenText_iff.mpr (Value.isGivenText_of (texts _ isEntry) isNamed.2)

/-- What is written of the graph of a document has the rules of the document. -/
theorem keep_fields (kept : Schema.document (.map document) = []) (texts : KeysNodesByText document)
    (read : ofDocument? (.map document) = .ok graph) :
    Schema.Keep Schema.documentMembers graph.fields := by
  have targets : ∀ entry ∈ graph.entrypoints, entry.2.str?.isSome = true := fun entry member =>
    (isGivenText_of_mem_entrypoints kept texts read entry member).isText
  have nodes := nodes_of_kept kept read
  obtain ⟨_, id, kind, _, parameters, tags, -, isId, isKind, -, -, isTags, parts⟩ :=
    eq_ofParts_of_ofDocument? read
  unfold fields
  rw [congrArg Graph.header parts]
  exact .cons ⟨rfl, rule_of_memberOf kept (by simp [Schema.documentMembers]) isId⟩ <|
    .cons ⟨rfl, rule_of_memberOf kept (by simp [Schema.documentMembers]) isKind⟩ <|
    .cons ⟨rfl, rule_of_whenGiven kept (by simp [Schema.documentMembers])⟩ <|
    .cons ⟨rfl, rule_of_whenGiven kept (by simp [Schema.documentMembers])⟩ <|
    .cons ⟨rfl, start_of_texts targets⟩ <| .cons ⟨rfl, rule_whenGiven rfl⟩ <|
    .cons ⟨rfl, rule_whenGiven (tags_of_kept kept isTags)⟩ <| .cons ⟨rfl, version_of_kept kept⟩ <|
    .cons ⟨rfl, rule_whenGiven (entrypoints_of_texts targets)⟩ <|
    .cons ⟨rfl, rule_of_whenGiven kept (by simp [Schema.documentMembers])⟩ <|
    .cons ⟨rfl, fun value isNodes => Option.some.inj isNodes ▸ nodes⟩ .nil

theorem document_of_keep (keep : Schema.Keep Schema.documentMembers graph.fields) :
    Schema.document (.map graph.toDocument) = [] := by
  have required : Schema.required ["id", "type", "nodes"] (.map graph.toDocument) = [] := by
    simp [Schema.required_eq_nil_iff, toDocument, Keyed.contains]
  rw [toDocument_eq_ofFields] at *
  rw [Schema.document, Schema.all_eq_nil_iff]
  simp only [List.forall_mem_cons, List.not_mem_nil, false_implies, implies_true, and_true]
  exact ⟨rfl, required, keep.properties nodup_fields, keep.onlyMembers⟩

theorem document_toDocument (kept : Schema.document (.map document) = [])
    (texts : KeysNodesByText document) (read : ofDocument? (.map document) = .ok graph) :
    Schema.document (.map graph.toDocument) = [] :=
  document_of_keep (keep_fields kept texts read)

/-- Nothing is lost when what was read is written and read again. -/
theorem ofDocument?_projection (kept : Schema.violations (.map document) = .ok [])
    (texts : KeysNodesByText document)
    (enterable : given? document "nodes" ≠ none ∨ given? document "start" ≠ none ∨
      given? document "entrypoints" = none)
    (read : ofDocument? (.map document) = .ok graph) :
    Schema.violations (.map graph.toDocument) = .ok [] ∧
      ofDocument? (.map graph.toDocument) = .ok graph.settled := by
  rw [Schema.violations_eq_ok_nil_iff] at *
  refine ⟨document_toDocument kept texts read, ?_⟩
  rw [ofDocument?_toDocument (isCanonical_of_ofDocument? read)
    (isEntered_of_kept kept texts read enterable), writtenHeader_of_kept kept read]
  rfl

/-- A document of two steps that is entered at the second one as well. -/
def reception : Members :=
  [(.str "id", .str "reception"), (.str "type", .str "messaging"), (.str "title", .str ""),
    (.str "entrypoints", .map [(.str "again", .str "welcome")]), (.str "meta", .map []),
    (.str "nodes", .map [
      (.str "ask", .map [(.str "operation", .str "collect"), (.str "questions", .map []),
        (.str "routing", .list [.map [(.str "status", .str "ok"), (.str "to", .str "welcome")]])]),
      (.str "welcome", .map [(.str "template", .str "Welcome."), (.str "routing", .str "out")])])]

theorem keysNodesByText_reception : KeysNodesByText reception := by
  intro nodes given id value member
  cases given
  simp only [List.mem_cons, Prod.mk.injEq, List.not_mem_nil, or_false] at member
  rcases member with ⟨rfl, -⟩ | ⟨rfl, -⟩
  · exact ⟨_, rfl⟩
  · exact ⟨_, rfl⟩

theorem ofDocument?_projection_reception : Schema.violations (.map reception) = .ok [] ∧
    ∃ graph, ofDocument? (.map reception) = .ok graph ∧
      Schema.violations (.map graph.toDocument) = .ok [] ∧
      ofDocument? (.map graph.toDocument) = .ok graph.settled := by
  have kept : Schema.violations (.map reception) = .ok [] :=
    Schema.violations_eq_ok_nil_iff.mpr (by decide +kernel)
  have isRead : (ofDocument? (.map reception)).isOk = true := by decide +kernel
  cases read : ofDocument? (.map reception) with
  | error failure => simp [read, Except.isOk, Except.toBool] at isRead
  | ok graph =>
    exact ⟨kept, graph, rfl, ofDocument?_projection kept keysNodesByText_reception (.inl (by decide)) read⟩

end Graph

end StepFlow
