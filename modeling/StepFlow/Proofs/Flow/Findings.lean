import StepFlow.Proofs.Edit.Validity

/-! What the check of a flow tells. Main statements: it tells nothing exactly if the flow keeps
every rule, it tells of each route that leads astray, and a catalog adds findings and hides none. -/
namespace StepFlow

open Outcome

/-- A path of keys leads through nested mappings. -/
inductive Resolves : Value → List String → Prop where
  | here {value : Value} : Resolves value []
  | under {members : Members} {key : String} {value : Value} {path : List String} :
      Keyed.get? members (.str key) = some value → Resolves value path →
      Resolves (.map members) (key :: path)

theorem hasPath_iff {value : Value} {path : List String} :
    hasPath value path = true ↔ Resolves value path := by
  constructor
  · intro leads
    induction path generalizing value with
    | nil => exact .here
    | cons key path ih =>
      cases value with
      | map members =>
        rw [hasPath] at leads
        split at leads
        · rename_i next found
          exact .under found (ih leads)
        · cases leads
      | scalar | list | pair | set => simp [hasPath] at leads
  · intro resolves
    induction resolves with
    | here => simp [hasPath]
    | under found _ ih => simpa [hasPath, found] using ih

theorem missingFields_eq_nil_iff {payload : Value} {fields : List String} :
    missingFields payload fields = [] ↔
      ∀ field ∈ fields, Resolves payload (splitText '.' field) := by
  simp [missingFields, hasRequiredField, hasPath_iff]

/-- What a kind of node has to have. Components are looked up where there is a catalog. -/
def Kind.IsValid (catalog : Option Catalog) : Kind → Prop
  | component id _ _ payload => payload ≠ .null ∧ ∀ known, catalog = some known →
      ∃ entry, known.resolve id = some entry ∧
        ∀ field ∈ entry.requiredFields, Resolves payload (splitText '.' field)
  | questions fields => ∃ value, Keyed.get? fields "fields" = some value
  | template text => isBlankText text = false
  | other _ _ => True

/-- Whether only a catalog can tell it. -/
def Diagnostic.isOfCatalog (finding : Diagnostic) : Bool :=
  finding.code = .componentNotFound || finding.code = .configRequired

/-- Whether it is about a route that leads astray. -/
def Diagnostic.isOfRoute (finding : Diagnostic) : Bool :=
  finding.code = .routeTargetMissing

namespace Graph

variable {graph : Graph} {catalog : Option Catalog} {node : Node} {findings : List Diagnostic}

/-- A flow that keeps every rule. -/
structure IsValid (graph : Graph) (catalog : Option Catalog) : Prop where
  entry : graph.LeadsIn
  routes : ∀ node ∈ graph.nodes, ∀ route ∈ node.routing, graph.Admits route
  kinds : ∀ node ∈ graph.nodes, node.kind.IsValid catalog

/-- The route leads to what is neither a node nor the way out. -/
def leadsAstray (graph : Graph) (route : Route) : Bool :=
  route.target.any fun target => target ≠ .str outTarget && !graph.hasNode target

/-! ### Nothing to tell -/

theorem catalogFindings_eq_nil_iff {id : String} {payload : Value} :
    catalogFindings node id payload catalog = [] ↔ ∀ known, catalog = some known →
      ∃ entry, known.resolve id = some entry ∧
        ∀ field ∈ entry.requiredFields, Resolves payload (splitText '.' field) := by
  cases catalog with
  | none => simp [catalogFindings]
  | some known =>
    cases found : known.resolve id with
    | none => simp [catalogFindings, found]
    | some entry => simp [catalogFindings, found, missingFields_eq_nil_iff]

theorem kindFindings_eq_nil_iff_isValid :
    kindFindings catalog node = [] ↔ node.kind.IsValid catalog := by
  unfold kindFindings Kind.IsValid
  cases node.kind with
  | component id packAlias operation payload =>
    simp only [List.append_eq_nil_iff, catalogFindings_eq_nil_iff]
    refine and_congr_left fun _ => ?_
    cases isNull : payload.isNull with
    | true => simp [Value.isNull_iff.mp isNull]
    | false => simp [← Value.isNull_iff, isNull]
  | questions fields => simp [← Keyed.contains_iff]
  | template text => simp
  | other key payload => simp

theorem findings_eq_nil_iff_isValid : graph.findings catalog = [] ↔ graph.IsValid catalog := by
  simp only [findings_eq_nil_iff, entryFindings_eq_nil_iff, nodeFindings_eq_nil_iff,
    kindFindings_eq_nil_iff_isValid]
  constructor
  · rintro ⟨leads, quiet⟩
    exact ⟨leads, fun node member => (quiet node member).1, fun node member => (quiet node member).2⟩
  · rintro ⟨leads, routes, kinds⟩
    exact ⟨leads, fun node member => ⟨routes node member, kinds node member⟩⟩

/-- What keeps every rule is looked through without a failure. -/
theorem validate_eq_ok_nil_iff : graph.validate catalog = .ok [] ↔ graph.IsValid catalog := by
  rw [← findings_eq_nil_iff_isValid]
  constructor
  · exact findings_of_validate
  · intro quiet
    obtain ⟨leads, silent⟩ := findings_eq_nil_iff.mp quiet
    rw [← quiet]
    refine validate_eq_ok (entryFindings_eq_nil_iff.mp leads) fun node member => ?_
    simp [canTellNode, silent node member]

/-! ### Routes that lead astray -/

theorem countP_routeFindings {route : Route} :
    (graph.routeFindings node route).countP Diagnostic.isOfRoute =
      if graph.leadsAstray route then 1 else 0 := by
  unfold routeFindings leadsAstray
  cases route.target with
  | none => rfl
  | some target =>
    cases known : graph.hasNode target <;> by_cases isOut : target = .str outTarget <;>
      simp [known, isOut, Diagnostic.isOfRoute]

theorem countP_flatMap_routeFindings {routes : List Route} :
    (routes.flatMap (graph.routeFindings node)).countP Diagnostic.isOfRoute =
      routes.countP graph.leadsAstray := by
  induction routes with
  | nil => rfl
  | cons route routes ih =>
    rw [List.flatMap_cons, List.countP_append, ih, countP_routeFindings, List.countP_cons, Nat.add_comm]

/-- Without a catalog nothing is told of a kind but what it lacks. -/
theorem of_mem_kindFindings_none {finding : Diagnostic} (member : finding ∈ kindFindings none node) :
    finding.isOfCatalog = false ∧ finding.isOfRoute = false := by
  unfold kindFindings at member
  cases kind : node.kind with
  | component id packAlias operation payload =>
    rw [kind] at member
    simp only [catalogFindings, List.append_nil] at member
    split at member
    · obtain rfl := List.mem_singleton.mp member
      simp [Diagnostic.isOfCatalog, Diagnostic.isOfRoute]
    · cases member
  | questions fields =>
    rw [kind] at member
    simp only at member
    split at member
    · cases member
    · obtain rfl := List.mem_singleton.mp member
      simp [Diagnostic.isOfCatalog, Diagnostic.isOfRoute]
  | template text =>
    rw [kind] at member
    simp only at member
    split at member
    · obtain rfl := List.mem_singleton.mp member
      simp [Diagnostic.isOfCatalog, Diagnostic.isOfRoute]
    · cases member
  | other key payload =>
    rw [kind] at member
    cases member

theorem isOfCatalog_of_mem_catalogFindings {finding : Diagnostic} {id : String} {payload : Value}
    (member : finding ∈ catalogFindings node id payload catalog) : finding.isOfCatalog = true := by
  unfold catalogFindings at member
  split at member
  · cases member
  split at member
  · obtain rfl := List.mem_singleton.mp member
    simp [Diagnostic.isOfCatalog]
  · obtain ⟨field, -, rfl⟩ := List.mem_map.mp member
    simp [Diagnostic.isOfCatalog]

/-- What the catalog tells of a kind comes behind all else. -/
theorem exists_kindFindings_eq (catalog : Option Catalog) (node : Node) :
    ∃ ofCatalog, kindFindings catalog node = kindFindings none node ++ ofCatalog ∧
      ∀ finding ∈ ofCatalog, finding.isOfCatalog = true := by
  unfold kindFindings
  cases node.kind with
  | component id packAlias operation payload =>
    exact ⟨catalogFindings node id payload catalog, by simp [catalogFindings], fun _ =>
      isOfCatalog_of_mem_catalogFindings⟩
  | questions | template | other => exact ⟨[], by simp, nofun⟩

theorem not_isOfRoute_of_isOfCatalog {finding : Diagnostic} (ofCatalog : finding.isOfCatalog = true) :
    finding.isOfRoute = false := by
  simp only [Diagnostic.isOfCatalog, Bool.or_eq_true, decide_eq_true_eq] at ofCatalog
  rcases ofCatalog with code | code <;> simp [Diagnostic.isOfRoute, code]

theorem countP_kindFindings : (kindFindings catalog node).countP Diagnostic.isOfRoute = 0 := by
  obtain ⟨added, same, ofCatalog⟩ := exists_kindFindings_eq catalog node
  rw [same, List.countP_eq_zero]
  intro finding member
  rw [Bool.not_eq_true]
  rcases List.mem_append.mp member with own | isAdded
  · exact (of_mem_kindFindings_none own).2
  · exact not_isOfRoute_of_isOfCatalog (ofCatalog finding isAdded)

theorem countP_entryFindings : graph.entryFindings.countP Diagnostic.isOfRoute = 0 := by
  unfold entryFindings
  split
  · rfl
  · split <;> rfl

/-- Each route that leads astray is told of once. -/
theorem countP_findings : (graph.findings catalog).countP Diagnostic.isOfRoute =
    graph.routes.countP fun route => graph.leadsAstray route.2 := by
  have ofNode (node : Node) : (graph.nodeFindings catalog node).countP Diagnostic.isOfRoute =
      (node.routing.map (node.id, ·)).countP fun route => graph.leadsAstray route.2 := by
    rw [nodeFindings, List.countP_append, countP_kindFindings, countP_flatMap_routeFindings,
      Nat.add_zero, List.countP_map]
    rfl
  rw [findings, List.countP_append, countP_entryFindings, Nat.zero_add, routes, List.countP_flatMap,
    List.countP_flatMap]
  congr 1
  exact List.map_congr_left fun node _ => ofNode node

/-! ### Findings without a catalog -/

theorem filter_kindFindings : (kindFindings catalog node).filter (fun finding => !finding.isOfCatalog) =
    kindFindings none node := by
  obtain ⟨added, same, ofCatalog⟩ := exists_kindFindings_eq catalog node
  have own : (kindFindings none node).filter (fun finding => !finding.isOfCatalog) =
      kindFindings none node :=
    List.filter_eq_self.mpr fun finding member => by simp [(of_mem_kindFindings_none member).1]
  have none : added.filter (fun finding => !finding.isOfCatalog) = [] :=
    List.filter_eq_nil_iff.mpr fun finding member => by simp [ofCatalog finding member]
  rw [same, List.filter_append, own, none, List.append_nil]

theorem filter_routeFindings {route : Route} :
    (graph.routeFindings node route).filter (fun finding => !finding.isOfCatalog) =
      graph.routeFindings node route := by
  unfold routeFindings
  split
  · rfl
  · split <;> rfl

theorem filter_entryFindings : graph.entryFindings.filter (fun finding => !finding.isOfCatalog) =
    graph.entryFindings := by
  unfold entryFindings
  split
  · rfl
  · split <;> rfl

theorem filter_nodeFindings :
    (graph.nodeFindings catalog node).filter (fun finding => !finding.isOfCatalog) =
      graph.nodeFindings none node := by
  simp only [nodeFindings, List.filter_append, List.filter_flatMap, filter_routeFindings,
    filter_kindFindings]

/-- Without the catalog's findings the others are as they are without a catalog. -/
theorem filter_findings : (graph.findings catalog).filter (fun finding => !finding.isOfCatalog) =
    graph.findings none := by
  simp only [findings, List.filter_append, List.filter_flatMap, filter_entryFindings,
    filter_nodeFindings]

/-- What can be told with a catalog can be told without one. -/
theorem canTellNode_none (tells : graph.canTellNode catalog node = true) :
    graph.canTellNode none node = true := by
  unfold canTellNode at *
  rw [Bool.or_eq_true] at *
  refine tells.imp_left fun silent => ?_
  rw [List.isEmpty_iff] at *
  rw [← filter_nodeFindings, silent]
  rfl

theorem validate_none (told : graph.validate catalog = .ok findings) :
    graph.validate none = .ok (findings.filter fun finding => !finding.isOfCatalog) := by
  obtain ⟨⟨fits, tellsEntry, tells⟩, rfl⟩ := validate_eq_ok_iff.mp told
  exact validate_eq_ok_iff.mpr
    ⟨⟨fits, tellsEntry, fun node member => canTellNode_none (tells node member)⟩,
      filter_findings.symm⟩

/-! ### What every check tells -/

/-- Everything that a finding can show is shown: the ids and the targets, and the first entrypoint
with a target that can be looked up. Texts always are. -/
structure IsShown (graph : Graph) : Prop where
  entry : ∀ name target, graph.entry? = some (name, target) →
    name.isWritable = true ∧ ∃ id : Scalar, target = .scalar id ∧ id.isWritable = true
  ids : ∀ node ∈ graph.nodes, node.id.isWritable = true
  targets : ∀ node ∈ graph.nodes, ∀ route ∈ node.routing, ∀ target, route.target = some target →
    target.isWritable = true

theorem IsShown.validate (shown : graph.IsShown) :
    graph.validate catalog = .ok (graph.findings catalog) := by
  refine validate_eq_ok_iff.mpr ⟨⟨?_, ?_, fun node member => ?_⟩, rfl⟩
  · unfold entryFits
    cases given : graph.entry? with
    | none => rfl
    | some entry =>
      obtain ⟨name, target⟩ := entry
      obtain ⟨-, id, rfl, -⟩ := shown.entry name target given
      rfl
  · unfold canTellEntry
    cases given : graph.entry? with
    | none => rfl
    | some entry =>
      obtain ⟨name, target⟩ := entry
      obtain ⟨nameShown, id, rfl, idShown⟩ := shown.entry name target given
      simp [nameShown, Value.isWritable, idShown]
  · exact canTellNode_of_told (shown.ids node member) fun route isRoute target isTarget =>
      .inr (shown.targets node member route isRoute target isTarget)

/-- The check is silent exactly about flows that keep every rule. It tells of each route that leads
astray, a catalog adds findings of its own only, and nothing but what cannot be shown stops it. -/
theorem validate_tells (graph : Graph) :
    (∀ catalog, graph.validate catalog = .ok [] ↔ graph.IsValid catalog) ∧
    (∀ catalog findings, graph.validate catalog = .ok findings →
      findings.countP Diagnostic.isOfRoute =
        graph.routes.countP fun route => graph.leadsAstray route.2) ∧
    (∀ catalog findings, graph.validate (some catalog) = .ok findings →
      graph.validate none = .ok (findings.filter fun finding => !finding.isOfCatalog)) ∧
    (graph.IsShown → ∀ catalog, ∃ findings, graph.validate catalog = .ok findings) := by
  refine ⟨fun catalog => validate_eq_ok_nil_iff, fun catalog findings told => ?_,
    fun catalog findings told => validate_none told, fun shown catalog => ⟨_, shown.validate⟩⟩
  rw [← (validate_eq_ok_iff.mp told).2, countP_findings]

/-- A step with two routes to the same nowhere, and a component that lacks a nested field. -/
def errand : Graph where
  header := ⟨.str "errand", .str "messaging", .null, .null, [], [], .null, .null⟩
  entrypoints := [(.str "default", .str "look")]
  nodes := [
    ⟨.str "look", .component "crm.look" none none (.map [(.str "http", .map [])]),
      [.toNode "gone", .toNode "say", .toNode "gone", .toNode "out"], []⟩,
    ⟨.str "say", .template "Done", [.leave], []⟩]
  names_distinct := by decide
  ids_distinct := by decide

def errandCatalog : Catalog :=
  ⟨[⟨"crm.look", ["http", "http.url"]⟩]⟩

theorem validate_tells_errand : errand.IsShown ∧
    ∃ findings, errand.validate (some errandCatalog) = .ok findings ∧
      findings.map Diagnostic.code = [.routeTargetMissing, .routeTargetMissing, .configRequired] ∧
      findings.countP Diagnostic.isOfRoute =
        errand.routes.countP (fun route => errand.leadsAstray route.2) ∧
      errand.validate none = .ok (findings.filter fun finding => !finding.isOfCatalog) ∧
      ¬ errand.IsValid (some errandCatalog) := by
  have shown : errand.IsShown := by
    refine ⟨fun name target given => ?_, by decide, by decide⟩
    cases given
    exact ⟨rfl, _, rfl, rfl⟩
  obtain ⟨silent, counted, bare, told⟩ := validate_tells errand
  obtain ⟨findings, reported⟩ := told shown (some errandCatalog)
  have same := (validate_eq_ok_iff.mp reported).2
  have codes : findings.map Diagnostic.code =
      [.routeTargetMissing, .routeTargetMissing, .configRequired] := by
    rw [← same]
    decide
  refine ⟨shown, findings, reported, codes, counted _ _ reported, bare _ _ reported, fun valid => ?_⟩
  obtain rfl := Except.ok.inj (reported.symm.trans ((silent _).mpr valid))
  cases codes

end Graph

end StepFlow
