import StepFlow.Proofs.Document.Nodes

/-! Graphs as reading gives them. Main statements: a graph of canonical nodes whose entrance comes
first comes back as it was, but for what is not written of its header; and a document that keeps
the rules loses nothing else either when it is read, written and read again. -/
namespace StepFlow

open Outcome Keyed

namespace Graph

variable {graph : Graph} {document : Members} {entries declared : Members} {name : String}
  {value : Option Value}

/-! ### The written form -/

/-- A value that is written only if it counts as given. -/
def whenGiven (value : Value) : Option Value :=
  (some value).filter Value.isTruthy

/-- The fields of the document of a graph. -/
def fields (graph : Graph) : List (String × Option Value) :=
  let header := graph.header
  [("id", some header.id), ("type", some header.kind), ("title", whenGiven header.title),
    ("description", whenGiven header.description),
    ("start", graph.entry?.bind fun entry => whenGiven entry.2),
    ("parameters", whenGiven (.map header.parameters)), ("tags", whenGiven (.list header.tags)),
    ("schema_version", (some header.schemaVersion).filter fun value => !value.isNull),
    ("entrypoints", whenGiven (.map graph.namedEntrypoints)), ("meta", whenGiven header.info),
    ("nodes", some (.map (graph.nodes.map fun node => (node.id, .map node.toMembers))))]

theorem optionalMember_eq_ofFields {value : Value} :
    optionalMember name value = ofFields [(name, whenGiven value)] := by
  unfold optionalMember whenGiven
  cases given : value.isTruthy <;> simp [ofFields, given]

theorem toDocument_eq_ofFields : graph.toDocument = ofFields graph.fields := by
  have version : (if graph.header.schemaVersion.isNull then []
      else [(Scalar.str "schema_version", graph.header.schemaVersion)]) =
      ofFields [("schema_version",
        (some graph.header.schemaVersion).filter fun value => !value.isNull)] := by
    cases isNull : graph.header.schemaVersion.isNull <;> simp [ofFields, isNull]
  unfold toDocument
  simp only [version, optionalMember_eq_ofFields]
  cases entry : graph.entry? <;> simp [fields, ofFields_cons, entry]

theorem nodup_fields : (graph.fields.map Prod.fst).Nodup := by
  change ["id", "type", "title", "description", "start", "parameters", "tags", "schema_version",
    "entrypoints", "meta", "nodes"].Nodup
  decide

theorem get?_toDocument (isField : (name, value) ∈ graph.fields) :
    Keyed.get? graph.toDocument (.str name) = value := by
  rw [toDocument_eq_ofFields, get?_ofFields nodup_fields isField]

/-! ### Entrypoints -/

/-- The entrypoints as reading gives them: the default one first, with a target that is written,
and behind it names with texts. Only a graph without nodes may have none. -/
structure IsEntered (graph : Graph) : Prop where
  distinct : Distinct graph.entrypoints
  entrance : (graph.entrypoints = [] ∧ graph.nodes = []) ∨
    ∃ target rest, graph.entrypoints = (.str defaultEntrypoint, target) :: rest ∧
      target.isTruthy = true ∧ ∀ entry ∈ rest, entry.2.IsGivenText

/-- The entrypoints that a document declares. -/
def declaredEntrypoints (document : Members) : Except Failure Members :=
  match given? document "entrypoints" with
  | none => .ok []
  | some (.map declared) => .ok declared
  | some _ => .error (.misshapen .noMapping)

/-- The default entrypoint, if there is a target for it. -/
def defaultEntry (start : Option Value) : Members :=
  (start.map fun target => (Scalar.str defaultEntrypoint, target)).toList

theorem resolveEntrypoints_eq_ok_iff : resolveEntrypoints document = .ok entries ↔
    ∃ start declared, defaultTarget? document = .ok start ∧
      declaredEntrypoints document = .ok declared ∧
      entries = Keyed.update (defaultEntry start)
        (declared.filter fun member => member.2.str?.isSome) := by
  have stepwise : resolveEntrypoints document = do
      let start ← defaultTarget? document
      let declared ← declaredEntrypoints document
      return Keyed.update (defaultEntry start)
        (declared.filter fun member => member.2.str?.isSome) := by
    unfold resolveEntrypoints declaredEntrypoints
    cases given? document "entrypoints" with
    | none => rfl
    | some value => cases value <;> rfl
  simp only [stepwise, bind_eq_ok, pure_eq_ok]
  constructor
  · rintro ⟨start, isStart, declared, isDeclared, rfl⟩
    exact ⟨start, declared, isStart, isDeclared, rfl⟩
  · rintro ⟨start, declared, isStart, isDeclared, rfl⟩
    exact ⟨start, isStart, declared, isDeclared, rfl⟩

theorem given?_toDocument (isField : (name, value) ∈ graph.fields) :
    given? graph.toDocument name = value.filter Value.isTruthy := by
  rw [given?, get?_toDocument isField]

theorem whenGiven_of_isTruthy {value : Value} (given : value.isTruthy = true) :
    whenGiven value = some value := by
  simp [whenGiven, given]

theorem filter_whenGiven {value : Value} :
    (whenGiven value).filter Value.isTruthy = whenGiven value := by
  simp [whenGiven, Option.filter_filter]

theorem namedEntrypoints_eq_tail {target : Value} {rest : Members}
    (distinct : Distinct graph.entrypoints)
    (entrypoints : graph.entrypoints = (.str defaultEntrypoint, target) :: rest)
    (texts : ∀ entry ∈ rest, entry.2.IsGivenText) : graph.namedEntrypoints = rest := by
  rw [entrypoints] at distinct
  have others := (List.pairwise_cons.mp distinct).1
  unfold namedEntrypoints
  rw [entrypoints, List.filter_cons_of_neg (by simp), List.filter_eq_self]
  intro entry member
  have differ : entry.1 ≠ .str defaultEntrypoint := by
    intro same
    have apart := others entry member
    rw [same, Scalar.same_refl] at apart
    exact absurd apart (by simp)
  simp [differ, (texts entry member).isTruthy]

theorem declaredEntrypoints_toDocument :
    declaredEntrypoints graph.toDocument = .ok graph.namedEntrypoints := by
  have isField : ("entrypoints", whenGiven (.map graph.namedEntrypoints)) ∈ graph.fields := by
    simp [fields]
  rw [declaredEntrypoints, given?_toDocument isField, filter_whenGiven]
  cases graph.namedEntrypoints <;> rfl

theorem given?_start_toDocument : given? graph.toDocument "start" =
    graph.entry?.bind fun entry => whenGiven entry.2 := by
  have isField : ("start", graph.entry?.bind fun entry => whenGiven entry.2) ∈ graph.fields := by
    simp [fields]
  rw [given?_toDocument isField]
  cases graph.entry? with
  | none => rfl
  | some entry => exact filter_whenGiven

theorem given?_nodes_toDocument : given? graph.toDocument "nodes" =
    if graph.nodes = [] then none
    else some (.map (graph.nodes.map fun node => (node.id, .map node.toMembers))) := by
  rw [given?, get?_nodes_toDocument]
  cases graph.nodes <;> rfl

theorem resolveEntrypoints_toDocument (entered : graph.IsEntered) :
    resolveEntrypoints graph.toDocument = .ok graph.entrypoints := by
  rw [resolveEntrypoints_eq_ok_iff]
  rcases entered.entrance with ⟨none, empty⟩ | ⟨target, rest, entrypoints, leads, texts⟩
  · refine ⟨.none, graph.namedEntrypoints, ?_, declaredEntrypoints_toDocument, ?_⟩
    · simp [defaultTarget?, given?_start_toDocument, given?_nodes_toDocument, entry?, none, empty]
    · simp [namedEntrypoints, none, defaultEntry, Keyed.update]
  · have named := namedEntrypoints_eq_tail entered.distinct entrypoints texts
    refine ⟨some target, rest, ?_, named ▸ declaredEntrypoints_toDocument, ?_⟩
    · simp [defaultTarget?, given?_start_toDocument, entry?, entrypoints,
        whenGiven_of_isTruthy leads]
    · have isTexts : rest.filter (fun member => member.2.str?.isSome) = rest :=
        List.filter_eq_self.mpr fun entry member => (texts entry member).isText
      have whole : Distinct (defaultEntry (some target) ++ rest) := by
        simpa [entrypoints, defaultEntry] using entered.distinct
      rw [isTexts, update_eq_append whole, entrypoints]
      rfl

/-! ### Whole graphs -/

/-- The header without what is not written of it. -/
def writtenHeader (header : Header) : Header :=
  { header with
    title := (whenGiven header.title).getD .null
    description := (whenGiven header.description).getD .null
    info := (whenGiven header.info).getD .null }

theorem nodesOf_toDocument_of_isCanonical (canonical : ∀ node ∈ graph.nodes, node.IsCanonical) :
    nodesOf graph.toDocument = .ok graph.nodes := by
  rw [nodesOf_toDocument, mapM_eq_ok, List.forall₂_same]
  exact fun node member => (canonical node member).ofValue?_toMembers

/-- A graph as reading gives them comes back with all that is written of it. -/
theorem ofDocument?_toDocument (canonical : ∀ node ∈ graph.nodes, node.IsCanonical)
    (entered : graph.IsEntered) : ofDocument? (.map graph.toDocument) =
      .ok { graph with header := writtenHeader graph.header } := by
  have nodes := nodesOf_toDocument_of_isCanonical canonical
  have entrypoints := resolveEntrypoints_toDocument entered
  have found (name : String) (value : Option Value) (isField : (name, value) ∈ graph.fields) :
      Keyed.get? graph.toDocument (.str name) = value := get?_toDocument isField
  have id := found "id" (some graph.header.id) (by simp [fields])
  have kind := found "type" (some graph.header.kind) (by simp [fields])
  have title := found "title" (whenGiven graph.header.title) (by simp [fields])
  have description := found "description" (whenGiven graph.header.description) (by simp [fields])
  have info := found "meta" (whenGiven graph.header.info) (by simp [fields])
  have parameters : ((given? graph.toDocument "parameters").map mappingOf).getD (.ok []) =
      .ok graph.header.parameters := by
    rw [given?, found "parameters" (whenGiven (.map graph.header.parameters)) (by simp [fields]),
      filter_whenGiven]
    cases graph.header.parameters <;> rfl
  have tags : ((given? graph.toDocument "tags").map Value.items?).getD (.ok []) =
      .ok graph.header.tags := by
    rw [given?, found "tags" (whenGiven (.list graph.header.tags)) (by simp [fields]),
      filter_whenGiven]
    cases graph.header.tags <;> rfl
  have version : (Keyed.get? graph.toDocument (.str "schema_version")).getD .null =
      graph.header.schemaVersion := by
    rw [found "schema_version"
      ((some graph.header.schemaVersion).filter fun value => !value.isNull) (by simp [fields])]
    by_cases null : graph.header.schemaVersion = .null
    · rw [null]
      rfl
    · have given : graph.header.schemaVersion.isNull = false :=
        Bool.eq_false_iff.mpr (mt Value.isNull_iff.mp null)
      simp [Option.filter, given]
  simp only [ofDocument?, memberOf, Members.get, nodes, id, kind, entrypoints, parameters, tags,
    title, description, info, version]
  refine congrArg Except.ok (Graph.ext rfl ?_ ?_)
  · exact ofList_eq_self entered.distinct
  · exact distinctNodes_eq_self graph.ids_distinct

/-! ### What reading gives -/

theorem eq_ofParts_of_ofDocument? (read : ofDocument? (.map document) = .ok graph) :
    ∃ nodes id kind entries parameters tags, nodesOf document = .ok nodes ∧
      memberOf document "id" = .ok id ∧ memberOf document "type" = .ok kind ∧
      resolveEntrypoints document = .ok entries ∧
      ((given? document "parameters").map mappingOf).getD (.ok []) = .ok parameters ∧
      ((given? document "tags").map Value.items?).getD (.ok []) = .ok tags ∧
      graph = ofParts ⟨id, kind, Members.get document "title", Members.get document "description",
        parameters, tags, Members.get document "schema_version", Members.get document "meta"⟩
        entries nodes := by
  simp only [ofDocument?, bind_eq_ok, pure_eq_ok] at read
  obtain ⟨nodes, isNodes, id, isId, kind, isKind, entries, isEntries, parameters, isParameters,
    tags, isTags, rfl⟩ := read
  exact ⟨nodes, id, kind, entries, parameters, tags, isNodes, isId, isKind, isEntries,
    isParameters, isTags, rfl⟩

theorem isCanonical_of_ofDocument? (read : ofDocument? (.map document) = .ok graph) :
    ∀ node ∈ graph.nodes, node.IsCanonical := by
  intro node member
  obtain ⟨members, value, -, -, once⟩ := exists_ofValue?_of_ofDocument? read member
  exact Node.isCanonical_of_ofValue? once

/-- An entrypoint is the default one, or its target was declared. -/
theorem of_mem_resolveEntrypoints (resolved : resolveEntrypoints document = .ok entries)
    {entry : Scalar × Value} (member : entry ∈ entries) :
    (∃ target, defaultTarget? document = .ok (some target) ∧
      entry = (.str defaultEntrypoint, target)) ∨
    ∃ declared given, declaredEntrypoints document = .ok declared ∧ given ∈ declared ∧
      given.2.str?.isSome = true ∧ entry.2 = given.2 := by
  obtain ⟨start, declared, isStart, isDeclared, rfl⟩ := resolveEntrypoints_eq_ok_iff.mp resolved
  rcases mem_update member with first | ⟨given, isGiven, same⟩
  · cases start with
    | none => cases first
    | some target => exact .inl ⟨target, isStart, List.mem_singleton.mp first⟩
  · obtain ⟨isDeclaredEntry, text⟩ := List.mem_filter.mp isGiven
    exact .inr ⟨declared, given, isDeclared, isDeclaredEntry, text, same⟩

/-- With a default target, the default entrypoint comes first. -/
theorem resolveEntrypoints_eq_cons (resolved : resolveEntrypoints document = .ok entries)
    {start : Value} (isStart : defaultTarget? document = .ok (some start)) :
    ∃ target rest, entries = (.str defaultEntrypoint, target) :: rest := by
  obtain ⟨found, declared, isFound, -, rfl⟩ := resolveEntrypoints_eq_ok_iff.mp resolved
  obtain rfl := Except.ok.inj (isFound.symm.trans isStart)
  have front : Keyed.keys (defaultEntry (some start)) <+: Keyed.keys (Keyed.update
      (defaultEntry (some start)) (declared.filter fun member => member.2.str?.isSome)) :=
    keys_prefix_update
  generalize Keyed.update (defaultEntry (some start)) _ = entries at front
  obtain ⟨others, spelled⟩ := front
  cases entries with
  | nil => cases spelled
  | cons first rest =>
    obtain ⟨name, target⟩ := first
    obtain rfl : Scalar.str defaultEntrypoint = name := (List.cons.inj spelled).1
    exact ⟨target, rest, rfl⟩

theorem distinct_resolveEntrypoints (resolved : resolveEntrypoints document = .ok entries) :
    Distinct entries := by
  obtain ⟨start, declared, -, -, rfl⟩ := resolveEntrypoints_eq_ok_iff.mp resolved
  refine Distinct.update ?_
  cases start with
  | none => exact List.Pairwise.nil
  | some target => exact List.pairwise_singleton _ _

theorem entrypoints_of_ofDocument? (read : ofDocument? (.map document) = .ok graph) :
    resolveEntrypoints document = .ok graph.entrypoints := by
  obtain ⟨nodes, id, kind, entries, parameters, tags, -, -, -, resolved, -, -, rfl⟩ :=
    eq_ofParts_of_ofDocument? read
  rw [resolved]
  exact congrArg Except.ok (ofList_eq_self (distinct_resolveEntrypoints resolved)).symm

/-- The ids under which a document holds its nodes are texts that name something. -/
def NamesNodes (document : Members) : Prop :=
  ∀ members, Keyed.get? document (.str "nodes") = some (.map members) →
    ∀ id value, (id, value) ∈ members → (Value.scalar id).IsGivenText

/-- Only without nodes there may be no default target. One that is not the start is an id. -/
theorem defaultTarget?_cases {nodes : List Node} (isNodes : nodesOf document = .ok nodes)
    (named : NamesNodes document) {start : Option Value}
    (isStart : defaultTarget? document = .ok start) :
    (start = none ∧ nodes = [] ∧ given? document "start" = none ∧ given? document "nodes" = none) ∨
      ∃ target, start = some target ∧
        (given? document "start" = some target ∨ target.IsGivenText) := by
  unfold defaultTarget? at isStart
  split at isStart
  · rename_i target given
    cases isStart
    exact .inr ⟨target, rfl, .inl given⟩
  · rename_i noStart noNodes
    cases isStart
    rw [nodesOf, noNodes] at isNodes
    exact .inl ⟨rfl, (Except.ok.inj isNodes).symm, noStart, noNodes⟩
  · rename_i value noStart given
    unfold nodesOf at isNodes
    rw [given] at isNodes
    cases value with
    | map members =>
      obtain ⟨isMap, nonempty⟩ := Option.filter_eq_some_iff.mp given
      obtain ⟨holds, -, isStart⟩ := bind_eq_ok.mp isStart
      split at isStart
      · cases isStart
        exact .inr ⟨_, rfl, .inr ⟨"in", by decide, rfl⟩⟩
      · cases members with
        | nil => cases nonempty
        | cons first rest =>
          cases isStart
          exact .inr ⟨_, rfl, .inr (named _ isMap first.1 first.2 (.head _))⟩
    | _ => cases isNodes

theorem isTruthy_of_given? {value : Value} (given : given? document name = some value) :
    value.isTruthy = true :=
  (Option.filter_eq_some_iff.mp given).2

theorem isEntered_of_ofDocument? (read : ofDocument? (.map document) = .ok graph)
    (named : NamesNodes document)
    (lead : ∀ declared, declaredEntrypoints document = .ok declared →
      ∀ entry ∈ declared, entry.2.str?.isSome = true → entry.2.isTruthy = true)
    (alone : defaultTarget? document = .ok none → graph.entrypoints = []) : graph.IsEntered := by
  have resolved := entrypoints_of_ofDocument? read
  have distinct := distinct_resolveEntrypoints resolved
  obtain ⟨nodes, isNodes, sameNodes⟩ := nodes_of_ofDocument? read
  obtain ⟨start, -, isStart, -, -⟩ := resolveEntrypoints_eq_ok_iff.mp resolved
  have fromDeclared {entry : Scalar × Value} (isDeclared : ∃ declared given,
      declaredEntrypoints document = .ok declared ∧ given ∈ declared ∧
        given.2.str?.isSome = true ∧ entry.2 = given.2) : entry.2.IsGivenText := by
    obtain ⟨declared, given, isDeclared, member, text, same⟩ := isDeclared
    rw [same]
    exact Value.isGivenText_of text (lead declared isDeclared given member text)
  refine ⟨distinct, ?_⟩
  rcases defaultTarget?_cases isNodes named isStart with ⟨rfl, rfl, -, -⟩ | ⟨first, rfl, origin⟩
  · exact .inl ⟨alone isStart, sameNodes⟩
  right
  obtain ⟨target, rest, entrypoints⟩ := resolveEntrypoints_eq_cons resolved isStart
  rw [entrypoints] at resolved distinct
  refine ⟨target, rest, entrypoints, ?_, fun entry member => ?_⟩
  · rcases of_mem_resolveEntrypoints resolved (.head _) with ⟨_, isDefault, same⟩ | isDeclared
    · obtain rfl := Option.some.inj (Except.ok.inj (isDefault.symm.trans isStart))
      obtain rfl := congrArg Prod.snd same
      exact origin.elim isTruthy_of_given? Value.IsGivenText.isTruthy
    · exact (fromDeclared isDeclared).isTruthy
  · rcases of_mem_resolveEntrypoints resolved (.tail _ member) with ⟨_, -, rfl⟩ | isDeclared
    · -- the name of the default entrypoint is taken by the first
      have apart := (List.pairwise_cons.mp distinct).1 _ member
      exact absurd (Scalar.same_refl _) (Bool.eq_false_iff.mp apart)
    · exact fromDeclared isDeclared

end Graph

end StepFlow
