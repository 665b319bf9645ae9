import StepFlow.Proofs.Document.Projection
import StepFlow.Proofs.Edit.Drafting

/-! What becomes of a document that keeps the rules when it is read. Main statement: it is refused
exactly if a node names no component, several, or the generic one without an operation; otherwise
its nodes become those of a graph, in their order. -/
namespace StepFlow

open Outcome Keyed

/-! ### Routing -/

namespace Route

variable {members : Members} {value : Value}

theorem not_isBadText {key : String} (rule : ∀ value, Keyed.get? members (.str key) = some value →
    Schema.hasType [.string] value = []) : isBadText members key = false := by
  unfold isBadText Members.get
  cases given : Keyed.get? members (.str key) with
  | none => rfl
  | some value =>
    obtain ⟨s, rfl⟩ := Schema.isText_of_hasType (rule value given)
    rfl

theorem not_isBadFlag {key : String} (rule : ∀ value, Keyed.get? members (.str key) = some value →
    Schema.hasType [.boolean] value = []) : isBadFlag members key = false := by
  unfold isBadFlag
  cases given : Keyed.get? members (.str key) with
  | none => rfl
  | some value =>
    obtain ⟨flag, rfl⟩ := Schema.isFlag_of_hasType (rule value given)
    rfl

/-- A value that keeps the rule for routes is read as one. -/
theorem exists_ofValue?_of_kept (kept : Schema.route value = []) : ∃ route, ofValue? value = .ok route := by
  simp only [Schema.route, Schema.all_eq_nil_iff, List.forall_mem_cons] at kept
  obtain ⟨isObject, rules, only, -⟩ := kept
  obtain ⟨members, rfl⟩ := Schema.isMap_of_hasType isObject
  rw [Schema.properties_eq_nil_iff] at rules
  have known : (Keyed.keys members).find? (fun key => !memberKeys.any fun name => key.same name) = none := by
    rw [List.find?_eq_none]
    intro key isKey
    rw [Bool.not_eq_true, Bool.not_eq_eq_eq_not, Bool.not_false]
    exact Schema.known_of_onlyMembers only key isKey
  have texts : ["to", "status"].find? (isBadText members) = none := by
    have target : isBadText members "to" = false := not_isBadText fun value given => by
      have both := rules "to" _ (.head _) value given
      rw [Schema.all_eq_nil_iff] at both
      exact both _ (.head _)
    have status : isBadText members "status" = false :=
      not_isBadText (rules "status" _ (.tail _ (.tail _ (.head _))))
    simp [target, status]
  have flags : ["out", "reply"].find? (isBadFlag members) = none := by
    have out : isBadFlag members "out" = false := not_isBadFlag (rules "out" _ (.tail _ (.head _)))
    have reply : isBadFlag members "reply" = false :=
      not_isBadFlag (rules "reply" _ (.tail _ (.tail _ (.tail _ (.head _)))))
    simp [out, reply]
  exact ⟨ofMembers members, by simp only [ofValue?, known, texts, flags]⟩

end Route

/-- Routing that keeps its rule is read. -/
theorem exists_parseRoutes_of_kept {value : Value} (kept : Schema.routing value = []) :
    ∃ routes, parseRoutes value = .ok routes := by
  rcases Schema.routing_eq_nil_iff.mp kept with rfl | ⟨rfl | rfl⟩ | ⟨items, rfl, each⟩
  · exact ⟨[], rfl⟩
  · exact ⟨[.leave], rfl⟩
  · exact ⟨[.answer], rfl⟩
  · exact exists_mapM_iff.mpr fun item member => Route.exists_ofValue?_of_kept (each item member)

/-! ### Nodes -/

theorem ShapeFault.onNode_eq {fault : ShapeFault} {id : Scalar} : fault.onNode id =
    if id.isWritable then .flow (.shape fault (.node id)) else .invalid .longInteger := by
  cases writable : id.isWritable <;>
    simp [onNode, Failure.ofFault, FlowFault.shown, Subject.shown, writable]

namespace Node

variable {id : Scalar} {body : Members} {payload : Value} {key : String}

/-- The keys of a body beside its routing, its alias, its operation and the reserved ones. -/
def componentKeys (body : Members) : List Scalar :=
  (Keyed.keys body).filter fun key => key ∉ sideKeys.map Scalar.str

/-- No operation is named, or only blanks. -/
def LacksOperation (body : Members) : Prop :=
  ((Keyed.get? body (.str "operation")).bind Value.str?).all isBlankText = true

instance : Decidable (LacksOperation body) :=
  inferInstanceAs (Decidable (_ = true))

/-- The body names no component, several, or the generic one without an operation. -/
def IsMisshapen (body : Members) : Prop :=
  (componentKeys body).length ≠ 1 ∨ componentKeys body = [.str execKey] ∧ LacksOperation body

instance : Decidable (IsMisshapen body) :=
  inferInstanceAs (Decidable (_ ∨ _))

/-- The body names one component, by something else than a text. -/
def NamesNoText (body : Members) : Prop :=
  ∃ key, componentKeys body = [key] ∧ ∀ name, key ≠ .str name

theorem NamesNoText.not_isMisshapen (untold : NamesNoText body) : ¬ IsMisshapen body := by
  obtain ⟨key, lone, noText⟩ := untold
  rintro (many | ⟨generic, -⟩)
  · exact many (by rw [lone, List.length_singleton])
  · exact noText _ (List.singleton_inj.mp (lone.symm.trans generic))

theorem NamesNoText.not_hasTextKeys (untold : NamesNoText body) : ¬ HasTextKeys body := by
  obtain ⟨key, lone, noText⟩ := untold
  intro texts
  have isKey : key ∈ componentKeys body := by simp [lone]
  obtain ⟨name, rfl⟩ := texts key (List.mem_of_mem_filter isKey)
  exact noText name rfl

theorem componentKeys_eq_keys : componentKeys body = Keyed.keys (componentMembers body) := by
  simp only [componentKeys, componentMembers_eq_filter, Keyed.keys, List.filter_map]
  refine congrArg _ (List.filter_congr fun member _ => ?_)
  have side : member.1 ∈ sideKeys.map Scalar.str ↔ isSide member = true := by
    simp only [isSide, List.any_eq_true, Scalar.same_str, List.mem_map]
    exact exists_congr fun _ => and_congr_right fun _ => eq_comm
  simp only [Function.comp_apply, side, decide_not, Bool.decide_eq_true]

/-- A lone component is found under its key. -/
theorem get?_of_componentMembers (lone : componentMembers body = [(.str key, payload)]) :
    Keyed.get? body (.str key) = some payload := by
  have free := not_mem_sideKeys_of_componentMembers lone
  have found : Keyed.get? (componentMembers body) (.str key) = some payload := by simp [lone]
  rwa [componentMembers_eq_filter, Keyed.get?_filter] at found
  rintro ⟨name, value⟩ - here
  obtain rfl := (Scalar.same_str _ _).mp here
  simpa using mt isSide_str.mp free

/-- A text that keeps its rule or is missing is read. -/
theorem optionalText_of_kept
    (rule : ∀ value, Keyed.get? body (.str key) = some value → Schema.hasType [.string] value = []) :
    ∃ text, (∀ fault, optionalText (Members.get body (.str key)) fault = .ok text) ∧
      Keyed.get? body (.str key) = text.map .str := by
  unfold Members.get
  cases given : Keyed.get? body (.str key) with
  | none => exact ⟨none, fun _ => rfl, rfl⟩
  | some value =>
    obtain ⟨s, rfl⟩ := Schema.isText_of_hasType (rule value given)
    exact ⟨some s, fun _ => rfl, rfl⟩

theorem lacksOperation_iff {operation : Option String}
    (given : Keyed.get? body (.str "operation") = operation.map .str) :
    LacksOperation body ↔ (operation.map isBlankText).getD true = true := by
  rw [LacksOperation, given]
  cases operation <;> rfl

theorem exists_kindOf {packAlias operation : Option String}
    (named : ¬ (key = execKey ∧ (operation.map isBlankText).getD true = true))
    (questions : key = "questions" → ∃ fields, payload = .map fields)
    (template : key = "template" → ∃ text, payload = .str text) :
    ∃ kind, kindOf id key packAlias operation payload = .ok kind := by
  have settled : ¬ (key = execKey && (operation.map isBlankText).getD true) = true := by
    simpa using named
  unfold kindOf
  rw [if_neg settled]
  split
  · rename_i isQuestions
    obtain ⟨fields, rfl⟩ := questions isQuestions
    exact ⟨_, rfl⟩
  split
  · rename_i isTemplate
    obtain ⟨text, rfl⟩ := template isTemplate
    exact ⟨_, rfl⟩
  split
  · exact ⟨_, rfl⟩
  · exact ⟨_, rfl⟩

/-- What a misshapen body is refused for. -/
def shapeFault (body : Members) : ShapeFault :=
  if (componentKeys body).length = 1 then .operationMissing else .keyCount []

/-- Once the fields beside the component are read, the component decides. -/
theorem ofValue?_eq {routing : List Route} {packAlias operation : Option String}
    (isRouting : parseRoutes (Members.get body "routing") = .ok routing)
    (isAlias : ∀ fault, optionalText (Members.get body "pack_alias") fault = .ok packAlias)
    (isOperation : ∀ fault, optionalText (Members.get body "operation") fault = .ok operation) :
    ofValue? id (.map body) =
      match componentMembers body with
      | [(.str key, payload)] => do
        let kind ← kindOf id key packAlias operation payload
        let stray := if kind.isComponent then [] else strayMembers packAlias operation
        return ⟨id, kind, routing, reservedMembers body ++ stray⟩
      | [_] => .error (.misshapen .keyNotText)
      | _ => .error ((ShapeFault.keyCount []).onNode id) := by
  simp only [ofValue?, isRouting, isAlias, isOperation]
  rfl

/-- A node that keeps the rule is refused if it is misshapen or if its component is named by
something else than a text, and else it is read. -/
theorem ofValue?_of_kept (id : Scalar) (kept : Schema.node (.map body) = []) :
    (IsMisshapen body ∧ ofValue? id (.map body) = .error ((shapeFault body).onNode id)) ∨
      (NamesNoText body ∧ ofValue? id (.map body) = .error (.misshapen .keyNotText)) ∨
      ¬ IsMisshapen body ∧ ¬ NamesNoText body ∧ ∃ node, ofValue? id (.map body) = .ok node := by
  obtain ⟨routing, isRouting⟩ : ∃ routes, parseRoutes (Members.get body "routing") = .ok routes := by
    refine exists_parseRoutes_of_kept ?_
    unfold Members.get
    cases given : Keyed.get? body (.str "routing") with
    | none => rfl
    | some value => exact Schema.routing_of_node kept given
  obtain ⟨packAlias, isAlias, -⟩ := optionalText_of_kept fun value given =>
    Schema.member_of_node "pack_alias" kept (.tail _ (.head _)) given
  obtain ⟨operation, isOperation, given⟩ := optionalText_of_kept fun value given =>
    Schema.member_of_node "operation" kept (.tail _ (.tail _ (.head _))) given
  rw [ofValue?_eq isRouting isAlias isOperation]
  unfold IsMisshapen NamesNoText shapeFault
  rw [componentKeys_eq_keys, lacksOperation_iff given]
  match components : componentMembers body with
  | [] => exact .inl ⟨.inl (by simp [Keyed.keys]), rfl⟩
  | _ :: _ :: _ => exact .inl ⟨.inl (by simp [Keyed.keys]), by simp [Keyed.keys]⟩
  | [(other, payload)] =>
    by_cases text : ∃ key, other = .str key
    case neg =>
      refine .inr (.inl ⟨⟨other, rfl, fun name same => text ⟨name, same⟩⟩, ?_⟩)
      cases other with
      | str key => exact absurd ⟨key, rfl⟩ text
      | _ => rfl
    obtain ⟨key, rfl⟩ := text
    have isPayload := get?_of_componentMembers components
    simp only [Keyed.keys, List.map_cons, List.map_nil, List.length_singleton, ne_eq,
      not_true_eq_false, false_or, List.cons.injEq, Scalar.str.injEq, and_true]
    by_cases bare : key = execKey ∧ (operation.map isBlankText).getD true = true
    · refine .inl ⟨bare, ?_⟩
      simp only [kindOf, bare.1, bare.2, decide_true, Bool.and_self, if_true]
      rfl
    · obtain ⟨kind, kinded⟩ : ∃ kind, kindOf id key packAlias operation payload = .ok kind :=
        exists_kindOf bare
          (fun isQuestions => Schema.isMap_of_hasType <|
            Schema.member_of_node "questions" kept (by simp) (isQuestions ▸ isPayload))
          (fun isTemplate => Schema.isText_of_hasType <|
            Schema.member_of_node "template" kept (by simp) (isTemplate ▸ isPayload))
      refine .inr (.inr ⟨bare, ?_, _, by rw [kinded]; rfl⟩)
      rintro ⟨_, rfl, noText⟩
      exact noText key rfl

end Node

/-! ### Documents -/

namespace Graph

variable {members : Members} {document value : Value} {graph : Graph} {name : String}

/-- The nodes that a document holds, by their ids. -/
def heldNodes : Value → Members
  | .map members =>
    match Keyed.get? members (.str "nodes") with
    | some (.map nodes) => nodes
    | _ => []
  | _ => []

/-- The nodes of the document have texts for keys. -/
def KeysFieldsByText (document : Value) : Prop :=
  ∀ id body, (id, .map body) ∈ heldNodes document → HasTextKeys body

instance : Decidable (KeysFieldsByText document) :=
  decidable_of_iff ((heldNodes document).all fun
    | (_, .map body) => decide (HasTextKeys body)
    | _ => true) <| by
    rw [List.all_eq_true]
    constructor
    · intro texts id body held
      exact of_decide_eq_true (texts _ held)
    · rintro texts ⟨id, value⟩ held
      cases value with
      | map body => exact decide_eq_true (texts id body held)
      | _ => rfl

theorem get?_nodes_of_kept (kept : Schema.document (.map members) = []) :
    Keyed.get? members (.str "nodes") = some (.map (heldNodes (.map members))) := by
  obtain ⟨value, found⟩ := Schema.required_of_document "nodes" kept (by simp)
  have isRule : ("nodes", Schema.all [Schema.hasType [.object], Schema.everyKey Schema.nonEmptyString,
      Schema.everyMember Schema.node]) ∈ Schema.documentMembers := by simp [Schema.documentMembers]
  have rule := Schema.all_eq_nil_iff.mp (Schema.member_of_document kept isRule found)
  obtain ⟨nodes, rfl⟩ := Schema.isMap_of_hasType (rule _ (.head _))
  simp [heldNodes, found]

/-- Each node of the document is a mapping that keeps the rule. -/
theorem node_of_kept (kept : Schema.document (.map members) = []) {id : Scalar}
    (held : (id, value) ∈ heldNodes (.map members)) :
    ∃ body, value = .map body ∧ Schema.node (.map body) = [] := by
  have rule := Schema.node_of_document kept (get?_nodes_of_kept kept) held
  obtain ⟨body, rfl⟩ := Schema.isMap_of_hasType (Schema.all_eq_nil_iff.mp rule _ (.head _))
  exact ⟨body, rfl, rule⟩

theorem nodesOf_of_kept (kept : Schema.document (.map members) = []) :
    nodesOf members = (heldNodes (.map members)).mapM fun (id, value) => Node.ofValue? id value := by
  unfold nodesOf given?
  rw [get?_nodes_of_kept kept]
  cases heldNodes (.map members) <;> rfl

theorem exists_defaultTarget?_of_kept (kept : Schema.document (.map members) = []) :
    ∃ start, defaultTarget? members = .ok start := by
  have found := get?_nodes_of_kept kept
  unfold defaultTarget?
  cases given? members "start" with
  | some start => exact ⟨_, rfl⟩
  | none =>
    unfold given?
    rw [found]
    cases heldNodes (.map members) with
    | nil => exact ⟨none, rfl⟩
    | cons first rest =>
      change ∃ start, (if Keyed.contains (first :: rest) (.str "in") = true
        then Except.ok (some (Value.str "in")) else .ok (some (.scalar first.1))) = .ok start
      split
      · exact ⟨_, rfl⟩
      · exact ⟨_, rfl⟩

/-- A member whose rule asks for a mapping is one if it is given. -/
theorem isMap_of_given? (rule : Schema.Rule) (kept : Schema.document (.map members) = [])
    (isRule : (name, rule) ∈ Schema.documentMembers)
    (asks : ∀ value, rule value = [] → Schema.hasType [.object] value = [])
    (given : given? members name = some value) : ∃ fields, value = .map fields :=
  Schema.isMap_of_hasType <| asks value <|
    Schema.member_of_document kept isRule (Option.filter_eq_some_iff.mp given).1

theorem exists_declaredEntrypoints_of_kept (kept : Schema.document (.map members) = []) :
    ∃ declared, declaredEntrypoints members = .ok declared := by
  unfold declaredEntrypoints
  cases given : given? members "entrypoints" with
  | none => exact ⟨[], rfl⟩
  | some value =>
    obtain ⟨declared, rfl⟩ := isMap_of_given?
      (Schema.all [Schema.hasType [.object],
        Schema.everyMember (Schema.all [Schema.hasType [.string], Schema.nonEmptyString])])
      kept (by simp [Schema.documentMembers])
      (fun value kept => Schema.all_eq_nil_iff.mp kept _ (.head _)) given
    exact ⟨declared, rfl⟩

theorem exists_entrypoints_of_kept (kept : Schema.document (.map members) = []) :
    ∃ entries, resolveEntrypoints members = .ok entries := by
  obtain ⟨start, isStart⟩ := exists_defaultTarget?_of_kept kept
  obtain ⟨declared, isDeclared⟩ := exists_declaredEntrypoints_of_kept kept
  exact ⟨_, resolveEntrypoints_eq_ok_iff.mpr ⟨start, declared, isStart, isDeclared, rfl⟩⟩

theorem exists_parameters_of_kept (kept : Schema.document (.map members) = []) :
    ∃ parameters, ((given? members "parameters").map mappingOf).getD (.ok []) = .ok parameters := by
  cases given : given? members "parameters" with
  | none => exact ⟨[], rfl⟩
  | some value =>
    obtain ⟨parameters, rfl⟩ := isMap_of_given? (Schema.hasType [.object]) kept
      (by simp [Schema.documentMembers]) (fun value kept => kept) given
    exact ⟨parameters, rfl⟩

theorem exists_tags_of_kept (kept : Schema.document (.map members) = []) :
    ∃ tags, ((given? members "tags").map Value.items?).getD (.ok []) = .ok tags := by
  cases given : given? members "tags" with
  | none => exact ⟨[], rfl⟩
  | some value =>
    have isRule : ("tags", Schema.all [Schema.hasType [.array],
        Schema.everyItem (Schema.hasType [.string])]) ∈ Schema.documentMembers := by
      simp [Schema.documentMembers]
    have rule := Schema.member_of_document kept isRule (Option.filter_eq_some_iff.mp given).1
    obtain ⟨tags, rfl⟩ := Schema.isList_of_hasType (Schema.all_eq_nil_iff.mp rule _ (.head _))
    exact ⟨tags, rfl⟩

/-- Beside its nodes nothing of a document that keeps the rules can fail to be read. -/
theorem ofDocument?_eq_map (kept : Schema.document (.map members) = []) : ∃ header entries,
    ofDocument? (.map members) = (nodesOf members).map (ofParts header entries) := by
  obtain ⟨id, isId⟩ := Schema.required_of_document "id" kept (by simp)
  obtain ⟨kind, isKind⟩ := Schema.required_of_document "type" kept (by simp)
  obtain ⟨entries, isEntries⟩ := exists_entrypoints_of_kept kept
  obtain ⟨parameters, isParameters⟩ := exists_parameters_of_kept kept
  obtain ⟨tags, isTags⟩ := exists_tags_of_kept kept
  refine ⟨⟨id, kind, Members.get members "title", Members.get members "description", parameters, tags,
    Members.get members "schema_version", Members.get members "meta"⟩, entries, ?_⟩
  simp only [ofDocument?, memberOf, isId, isKind, isEntries, isParameters, isTags]
  cases nodesOf members <;> rfl

/-- The id and the body of the first node that is refused. -/
def FirstRefused (document : Value) (id : Scalar) (body : Members) : Prop :=
  ∃ before after, heldNodes document = before ++ (id, .map body) :: after ∧
    (Node.IsMisshapen body ∨ Node.NamesNoText body) ∧
    ∀ other fields, (other, .map fields) ∈ before → ¬ Node.IsMisshapen fields ∧ ¬ Node.NamesNoText fields

/-- The nodes are read unless one of them is refused, and the first of those says what for. -/
theorem nodesOf_eq_error_iff (kept : Schema.document (.map members) = []) {failure : Failure} :
    nodesOf members = .error failure ↔
      ∃ id body, FirstRefused (.map members) id body ∧
        (Node.IsMisshapen body ∧ failure = (Node.shapeFault body).onNode id ∨
          Node.NamesNoText body ∧ failure = .misshapen .keyNotText) := by
  rw [nodesOf_of_kept kept, mapM_eq_error_iff]
  constructor
  · rintro ⟨before, ⟨id, value⟩, after, held, succeed, failed⟩
    have isHeld : (id, value) ∈ heldNodes (.map members) := by simp [held]
    obtain ⟨body, rfl, rule⟩ := node_of_kept kept isHeld
    have earlier (other : Scalar) (fields : Members) (isBefore : (other, .map fields) ∈ before) :
        ¬ Node.IsMisshapen fields ∧ ¬ Node.NamesNoText fields := by
      obtain ⟨node, read⟩ := succeed _ isBefore
      have isHeld : (other, .map fields) ∈ heldNodes (.map members) := by simp [held, isBefore]
      obtain ⟨_, same, rule⟩ := node_of_kept kept isHeld
      cases same
      rcases Node.ofValue?_of_kept other rule with ⟨-, refused⟩ | ⟨-, refused⟩ | ⟨shapely, told, -⟩
      · cases read.symm.trans refused
      · cases read.symm.trans refused
      · exact ⟨shapely, told⟩
    rcases Node.ofValue?_of_kept id rule with ⟨misshapen, refused⟩ | ⟨untold, refused⟩ | ⟨-, -, node, read⟩
    · exact ⟨id, body, ⟨before, after, held, .inl misshapen, earlier⟩,
        .inl ⟨misshapen, Except.error.inj (failed.symm.trans refused)⟩⟩
    · exact ⟨id, body, ⟨before, after, held, .inr untold, earlier⟩,
        .inr ⟨untold, Except.error.inj (failed.symm.trans refused)⟩⟩
    · cases failed.symm.trans read
  · rintro ⟨id, body, ⟨before, after, held, -, earlier⟩, isFailure⟩
    refine ⟨before, (id, .map body), after, held, ?_, ?_⟩
    · rintro ⟨other, value⟩ isBefore
      have isHeld : (other, value) ∈ heldNodes (.map members) := by simp [held, isBefore]
      obtain ⟨fields, rfl, rule⟩ := node_of_kept kept isHeld
      obtain ⟨shapely, told⟩ := earlier other fields isBefore
      rcases Node.ofValue?_of_kept other rule with ⟨misshapen, -⟩ | ⟨untold, -⟩ | ⟨-, -, read⟩
      · contradiction
      · contradiction
      · exact read
    · have isHeld : (id, .map body) ∈ heldNodes (.map members) := by simp [held]
      obtain ⟨_, same, rule⟩ := node_of_kept kept isHeld
      cases same
      rcases Node.ofValue?_of_kept id rule with ⟨misshapen, refused⟩ | ⟨untold, refused⟩ | ⟨shapely, told, -⟩
      · rcases isFailure with ⟨-, rfl⟩ | ⟨untold, -⟩
        · exact refused
        · exact absurd misshapen untold.not_isMisshapen
      · rcases isFailure with ⟨misshapen, -⟩ | ⟨-, rfl⟩
        · exact absurd misshapen untold.not_isMisshapen
        · exact refused
      · rcases isFailure with ⟨misshapen, -⟩ | ⟨untold, -⟩
        · contradiction
        · contradiction

/-- Only its nodes can keep a document that keeps the rules from being read. -/
theorem ofDocument?_eq_error_iff (kept : Schema.document (.map members) = []) {failure : Failure} :
    ofDocument? (.map members) = .error failure ↔ nodesOf members = .error failure := by
  obtain ⟨header, entries, parts⟩ := ofDocument?_eq_map kept
  rw [parts, map_eq_error]

/-- Whatever the keys of its nodes are, only a node can keep the document from being read. -/
theorem failure_of_kept (kept : Schema.document (.map members) = []) {failure : Failure}
    (fails : ofDocument? (.map members) = .error failure) :
    (∃ fault id, failure = ShapeFault.onNode fault id) ∨ failure = .misshapen .keyNotText := by
  obtain ⟨id, body, -, ⟨-, rfl⟩ | ⟨-, rfl⟩⟩ :=
    (nodesOf_eq_error_iff kept).mp ((ofDocument?_eq_error_iff kept).mp fails)
  · exact .inl ⟨_, id, rfl⟩
  · exact .inr rfl

/-- The id and the body of the first misshapen node. -/
def FirstMisshapen (document : Value) (id : Scalar) (body : Members) : Prop :=
  ∃ before after, heldNodes document = before ++ (id, .map body) :: after ∧
    Node.IsMisshapen body ∧
    ∀ other fields, (other, .map fields) ∈ before → ¬ Node.IsMisshapen fields

theorem FirstMisshapen.held {id : Scalar} {body : Members} (first : FirstMisshapen document id body) :
    (id, .map body) ∈ heldNodes document := by
  obtain ⟨before, after, held, -⟩ := first
  simp [held]

theorem FirstMisshapen.misshapen {id : Scalar} {body : Members}
    (first : FirstMisshapen document id body) : Node.IsMisshapen body := by
  obtain ⟨before, after, -, misshapen, -⟩ := first
  exact misshapen

section

variable (kept : Schema.document (.map members) = []) (texts : KeysFieldsByText (.map members))

include kept texts

theorem ofValue?_of_held {id : Scalar} {body : Members}
    (held : (id, .map body) ∈ heldNodes (.map members)) :
    (Node.IsMisshapen body ∧
        Node.ofValue? id (.map body) = .error ((Node.shapeFault body).onNode id)) ∨
      ¬ Node.IsMisshapen body ∧ ∃ node, Node.ofValue? id (.map body) = .ok node := by
  obtain ⟨_, same, rule⟩ := node_of_kept kept held
  cases same
  rcases Node.ofValue?_of_kept id rule with refused | ⟨untold, -⟩ | ⟨shapely, -, read⟩
  · exact .inl refused
  · exact absurd (texts id body held) untold.not_hasTextKeys
  · exact .inr ⟨shapely, read⟩

theorem exists_firstMisshapen {failure : Failure} (fails : nodesOf members = .error failure) :
    ∃ id body, FirstMisshapen (.map members) id body ∧
      failure = (Node.shapeFault body).onNode id := by
  obtain ⟨id, body, ⟨before, after, held, -, earlier⟩, isFailure⟩ := (nodesOf_eq_error_iff kept).mp fails
  have texts : HasTextKeys body := texts id body (held ▸ by simp)
  obtain ⟨misshapen, rfl⟩ := isFailure.resolve_right fun untold => untold.1.not_hasTextKeys texts
  exact ⟨id, body, ⟨before, after, held, misshapen, fun other fields isBefore =>
    (earlier other fields isBefore).1⟩, rfl⟩

/-- A document whose nodes are read has no misshapen one. -/
theorem not_isMisshapen_of_nodesOf {nodes : List Node} (isNodes : nodesOf members = .ok nodes)
    {id : Scalar} {body : Members} (held : (id, .map body) ∈ heldNodes (.map members)) :
    ¬ Node.IsMisshapen body := by
  rw [nodesOf_of_kept kept] at isNodes
  obtain ⟨node, read⟩ := exists_mapM_iff.mp ⟨nodes, isNodes⟩ _ held
  rcases ofValue?_of_held kept texts held with ⟨-, refused⟩ | ⟨shapely, -⟩
  · cases read.symm.trans refused
  · exact shapely

end

theorem ids_of_ofDocument? (kept : Schema.document (.map members) = [])
    (distinct : Distinct (heldNodes (.map members))) (read : ofDocument? (.map members) = .ok graph) :
    graph.ids = Keyed.keys (heldNodes (.map members)) := by
  obtain ⟨nodes, isNodes, same⟩ := nodes_of_ofDocument? read
  rw [nodesOf_of_kept kept, mapM_eq_ok] at isNodes
  have ids : nodes.map Node.id = Keyed.keys (heldNodes (.map members)) := by
    rw [Keyed.keys, eq_comm, ← List.forall₂_eq_eq_eq, List.forall₂_map_left_iff,
      List.forall₂_map_right_iff]
    exact isNodes.imp fun held node read => (Node.of_ofValue? read).1.symm
  have keys : (nodes.map Node.key).Nodup := by
    rw [distinct_iff, ← ids, List.map_map] at distinct
    exact distinct
  rw [Graph.ids, same, distinctNodes_eq_self keys, ids]

/-- A document that keeps the rules is read unless it holds a misshapen node. It is refused for
the first of these, by its id if that can be written, and else its ids become those of the graph. -/
theorem ofDocument?_of_violations (kept : Schema.violations document = .ok [])
    (texts : KeysFieldsByText document) :
    ((∃ graph, ofDocument? document = .ok graph) ↔
        ∀ id body, (id, .map body) ∈ heldNodes document → ¬ Node.IsMisshapen body) ∧
      (∀ failure, ofDocument? document = .error failure → ∃ id body, FirstMisshapen document id body ∧
        failure = if id.isWritable then .flow (.shape (Node.shapeFault body) (.node id))
          else .invalid .longInteger) ∧
      (∀ graph, ofDocument? document = .ok graph → Distinct (heldNodes document) →
        graph.ids = Keyed.keys (heldNodes document)) := by
  rw [Schema.violations_eq_ok_nil_iff] at kept
  obtain ⟨members, rfl⟩ := Schema.isMap_of_hasType (Schema.all_eq_nil_iff.mp kept _ (.head _))
  obtain ⟨header, entries, parts⟩ := ofDocument?_eq_map kept
  refine ⟨?_, fun failure fails => ?_, fun graph read distinct => ids_of_ofDocument? kept distinct read⟩
  · cases isNodes : nodesOf members with
    | ok nodes =>
      rw [parts, isNodes]
      exact iff_of_true ⟨_, rfl⟩ fun id body held => not_isMisshapen_of_nodesOf kept texts isNodes held
    | error failure =>
      obtain ⟨id, body, first, -⟩ := exists_firstMisshapen kept texts isNodes
      rw [parts, isNodes]
      exact iff_of_false nofun fun shapely => shapely id body first.held first.misshapen
  · cases isNodes : nodesOf members with
    | ok nodes =>
      rw [parts, isNodes] at fails
      cases fails
    | error cause =>
      rw [parts, isNodes] at fails
      obtain rfl := Except.error.inj fails
      obtain ⟨id, body, first, rfl⟩ := exists_firstMisshapen kept texts isNodes
      exact ⟨id, body, first, ShapeFault.onNode_eq⟩

/-- A document whose second node only names the generic component. -/
def unsaid : Members :=
  [(.str "id", .str "unsaid"), (.str "type", .str "messaging"),
    (.str "nodes", .map [
      (.str "welcome", .map [(.str "template", .str "Welcome."), (.str "routing", .str "out")]),
      (.str "call", .map [(.str "component.exec", .map []), (.str "operation", .str " ")])])]

theorem ofDocument?_of_violations_unsaid :
    (Schema.violations (.map reception) = .ok [] ∧ ∃ graph, ofDocument? (.map reception) = .ok graph ∧
      graph.ids = [.str "ask", .str "welcome"]) ∧
    Schema.violations (.map unsaid) = .ok [] ∧
      ofDocument? (.map unsaid) = .error (.flow (.shape .operationMissing (.node (.str "call")))) := by
  have kept : Schema.violations (.map reception) = .ok [] :=
    Schema.violations_eq_ok_nil_iff.mpr (by decide +kernel)
  have keptUnsaid : Schema.violations (.map unsaid) = .ok [] :=
    Schema.violations_eq_ok_nil_iff.mpr (by decide +kernel)
  obtain ⟨accepts, -, ids⟩ := ofDocument?_of_violations kept (by decide +kernel)
  obtain ⟨acceptsUnsaid, refuses, -⟩ := ofDocument?_of_violations keptUnsaid (by decide +kernel)
  have shapely : ∀ id body, (id, .map body) ∈ heldNodes (.map reception) →
      ¬ Node.IsMisshapen body := by
    intro id body held
    rcases List.mem_cons.mp held with same | held
    · cases same
      decide +kernel
    · cases List.mem_singleton.mp held
      decide +kernel
  obtain ⟨graph, read⟩ := accepts.mpr shapely
  refine ⟨⟨kept, graph, read, ids graph read (by decide +kernel)⟩, keptUnsaid, ?_⟩
  cases unread : ofDocument? (.map unsaid) with
  | ok graph =>
    have shapely := acceptsUnsaid.mp ⟨graph, unread⟩ _ _ (.tail _ (.head _))
    exact absurd (by decide +kernel) shapely
  | error failure =>
    obtain ⟨id, body, first, rfl⟩ := refuses failure unread
    obtain ⟨held, misshapen⟩ := And.intro first.held first.misshapen
    rcases List.mem_cons.mp held with same | held
    · cases same
      exact absurd misshapen (by decide +kernel)
    · cases List.mem_singleton.mp held
      rfl

/-- An integer with too many digits may be the id of a misshapen node. -/
def unshown : Members :=
  [(.str "id", .str "unshown"), (.str "type", .str "messaging"),
    (.str "nodes", .map [(.int writableBound, .map [(.str "routing", .str "out")])])]

/-- What then ends the reading is no fault of the shape. -/
theorem not_shape_unshown : Schema.violations (.map unshown) = .ok [] ∧
    KeysFieldsByText (.map unshown) ∧ ¬ ((∃ graph, ofDocument? (.map unshown) = .ok graph) ∨
      ∃ fault subject, ofDocument? (.map unshown) = .error (.flow (.shape fault subject))) := by
  have kept : Schema.violations (.map unshown) = .ok [] :=
    Schema.violations_eq_ok_nil_iff.mpr (by decide +kernel)
  have refused : ofDocument? (.map unshown) = .error (.invalid .longInteger) := by decide +kernel
  refine ⟨kept, by decide +kernel, ?_⟩
  rw [refused]
  rintro (⟨graph, read⟩ | ⟨fault, subject, same⟩)
  · cases read
  · cases same

end Graph

end StepFlow
