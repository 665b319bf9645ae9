import StepFlow.Proofs.Document.Projection
import StepFlow.Proofs.Edit.Representation

/-! Which graphs can be saved: those whose documents keep the rules. Main statement: however a graph
is edited that was read from such a document, it can be saved exactly if none of its routes leads
to the empty text. -/
namespace StepFlow

open Outcome

/-- A route whose target is a text leads by a name, unless the text is empty. -/
theorem Route.LeadsByText.leadsByName_iff {route : Route} (text : route.LeadsByText) :
    route.LeadsByName ↔ route.target ≠ some (.str "") := by
  constructor
  · rintro named isTarget
    obtain ⟨s, nonempty, same⟩ := named _ isTarget
    exact nonempty (Scalar.str.inj (Value.scalar.inj same)).symm
  · intro nonempty target isTarget
    obtain ⟨s, rfl⟩ := text target isTarget
    exact ⟨s, fun empty => nonempty (empty ▸ isTarget), rfl⟩

namespace Graph

variable {document : Members} {start graph result : Graph}

/-- What edits keep of the rules for documents: all of them, but that routes lead by names. -/
structure KeepsRulesOf (start graph : Graph) : Prop where
  header : graph.header = start.header
  targets : ∀ entry ∈ graph.entrypoints, entry.2.str?.isSome = true
  canonical : ∀ node ∈ graph.nodes, node.IsCanonical
  named : ∀ node ∈ graph.nodes, (Value.scalar node.id).IsGivenText
  telemetry : ∀ node ∈ graph.nodes, node.KeepsTelemetry

theorem KeepsRulesOf.of_kept (kept : Schema.document (.map document) = [])
    (texts : KeysNodesByText document) (read : ofDocument? (.map document) = .ok start) :
    KeepsRulesOf start start := by
  have origin {node : Node} (member : node ∈ start.nodes) :
      (Value.scalar node.id).IsGivenText ∧ node.KeepsTelemetry := by
    obtain ⟨members, value, given, isMember, once⟩ := exists_ofValue?_of_ofDocument? read member
    obtain ⟨sameId, -, body, rfl, -⟩ := Node.of_ofValue? once
    exact ⟨sameId ▸ namesNodes_of_kept kept texts members given _ _ isMember,
      Node.keepsTelemetry_of_ofValue? (Schema.node_of_document kept given isMember) once⟩
  exact ⟨rfl, fun entry member => (isGivenText_of_mem_entrypoints kept texts read entry member).isText,
    isCanonical_of_ofDocument? read, fun _ member => (origin member).1,
    fun _ member => (origin member).2⟩

theorem KeepsRulesOf.edited (keeps : KeepsRulesOf start graph) (edited : graph.Edited result) :
    KeepsRulesOf start result := by
  have descends := Descends.of_edited keeps.canonical keeps.named edited
  refine ⟨(header_of_edited edited).trans keeps.header, ?_, descends.canonical,
    descends.named keeps.named, fun node member => ?_⟩
  · cases Reentered.of_edited keeps.canonical keeps.named edited with
    | kept same => exact same ▸ keeps.targets
    | redirected same text =>
      rw [same]
      intro entry member
      obtain ⟨old, isOld, rfl⟩ := List.mem_map.mp member
      simp only
      split
      · exact text
      · exact keeps.targets old isOld
    | started same isName =>
      rw [same]
      intro entry member
      rw [target_startWith member]
      exact isName.isText
  · rcases descends.origin node member with ⟨-, plain⟩ | ⟨old, isOld, -, same⟩
    · rw [Node.KeepsTelemetry, plain]
      exact fun value found => nomatch found
    · rw [Node.KeepsTelemetry, same]
      exact keeps.telemetry old isOld

theorem KeepsRulesOf.reached (keeps : KeepsRulesOf start start)
    (run : Relation.ReflTransGen Edited start graph) : KeepsRulesOf start graph := by
  induction run with
  | refl => exact keeps
  | tail _ edited ih => exact ih.edited edited

/-- What is written of the header is the same, whatever the nodes and entrypoints are. -/
theorem keep_of_header (origin : Schema.Keep Schema.documentMembers start.fields)
    (header : graph.header = start.header)
    (targets : ∀ entry ∈ graph.entrypoints, entry.2.str?.isSome = true)
    (nodes : ∀ node ∈ graph.nodes, Schema.nonEmptyString (.scalar node.id) = [] ∧
      Schema.node (.map node.toMembers) = []) :
    Schema.Keep Schema.documentMembers graph.fields := by
  unfold Schema.Keep Schema.documentMembers fields at *
  simp only [List.forall₂_cons, List.Forall₂.nil, and_true, true_and] at *
  obtain ⟨id, kind, title, description, -, parameters, tags, version, -, info, -⟩ := origin
  rw [header]
  refine ⟨id, kind, title, description, start_of_texts targets, parameters, tags, version,
    rule_whenGiven (entrypoints_of_texts targets), info, fun value isNodes => ?_⟩
  exact Option.some.inj isNodes ▸ nodes_of_rules nodes

theorem document_toDocument_iff (keeps : KeepsRulesOf start graph)
    (origin : Schema.Keep Schema.documentMembers start.fields) :
    Schema.document (.map graph.toDocument) = [] ↔
      ∀ node ∈ graph.nodes, ∀ route ∈ node.routing, route.target ≠ some (.str "") := by
  have rule {node : Node} (member : node ∈ graph.nodes) : Schema.node (.map node.toMembers) = [] ↔
      ∀ route ∈ node.routing, route.target ≠ some (.str "") := by
    have canonical := keeps.canonical node member
    rw [canonical.rule_toMembers_iff (keeps.telemetry node member)]
    exact forall₂_congr fun route isRoute => (canonical.routing route isRoute).leadsByName_iff
  constructor
  · intro kept node member
    have isMember : (node.id, Value.map node.toMembers) ∈
        graph.nodes.map fun node => (node.id, .map node.toMembers) := List.mem_map_of_mem member
    exact (rule member).mp (Schema.node_of_document kept get?_nodes_toDocument isMember)
  · intro nonempty
    refine document_of_keep (keep_of_header origin keeps.header keeps.targets fun node member => ?_)
    exact ⟨(Schema.isGivenText_iff.mpr (keeps.named node member)).2, (rule member).mpr (nonempty node member)⟩

/-- Only an empty target keeps an edited graph from being saved. -/
theorem violations_reached_iff (kept : Schema.violations (.map document) = .ok [])
    (texts : KeysNodesByText document) (read : ofDocument? (.map document) = .ok start)
    (run : Relation.ReflTransGen Edited start graph) :
    Schema.violations (.map graph.toDocument) = .ok [] ↔
      ∀ node ∈ graph.nodes, ∀ route ∈ node.routing, route.target ≠ some (.str "") := by
  rw [Schema.violations_eq_ok_nil_iff] at *
  exact document_toDocument_iff ((KeepsRulesOf.of_kept kept texts read).reached run)
    (keep_fields kept texts read)

/-- The graph of the reception. -/
def desk : Graph where
  header := ⟨.str "reception", .str "messaging", .str "", .null, [], [], .null, .map []⟩
  entrypoints := [(.str defaultEntrypoint, .str "ask"), (.str "again", .str "welcome")]
  nodes := [
    ⟨.str "ask", .questions [], [⟨some "welcome", false, some "ok", false⟩],
      [(.str "operation", .str "collect")]⟩,
    ⟨.str "welcome", .template "Welcome.", [.leave], []⟩]
  names_distinct := by decide
  ids_distinct := by decide

/-- A step that leaves the flow. -/
def parting : Request where
  after := none
  hint := some "parting"
  node := .map [(.str "template", .str "Goodbye."),
    (.str "routing", .list [.map [(.str "out", .bool true)]])]
  allowCycles := false
  requirePlaceholder := false

def partingPlan (anchor : String) (priorRouting : List Route) (precedesEntry : Bool) : Plan where
  anchor := .str anchor
  node := ⟨.str "parting", .template "Goodbye.", [.leave], []⟩
  priorRouting := priorRouting
  precedesEntry := precedesEntry
  allowCycles := false

/-- Routes that lead nowhere. -/
def astray : Overrides := ⟨none, none, some (.routes [.toNode ""])⟩

/-- It can be saved when all of it is deleted, and when a step is added to what is left then. It
cannot when a step in front of the entry leads nowhere. -/
theorem violations_reached_reception : Schema.violations (.map reception) = .ok [] ∧
    KeysNodesByText reception ∧ ofDocument? (.map reception) = .ok desk ∧
    (∃ graph, Relation.ReflTransGen Edited desk graph ∧ graph.nodes = [] ∧
      Schema.violations (.map graph.toDocument) = .ok []) ∧
    (∃ graph, Relation.ReflTransGen Edited desk graph ∧ graph.ids = [.str "parting"] ∧
      Schema.violations (.map graph.toDocument) = .ok []) ∧
    ∃ graph, Relation.ReflTransGen Edited desk graph ∧
      graph.ids = [.str "parting", .str "ask", .str "welcome"] ∧
      Schema.violations (.map graph.toDocument) ≠ .ok [] := by
  have kept : Schema.violations (.map reception) = .ok [] :=
    Schema.violations_eq_ok_nil_iff.mpr (by decide +kernel)
  have texts := keysNodesByText_reception
  have read : ofDocument? (.map reception) = .ok desk := by decide +kernel
  have unasked : desk.delete "ask" .removeOnly .refuse = .ok (desk.remove "ask") := rfl
  have emptied : (desk.remove "ask").delete "welcome" .removeOnly .refuse =
      .ok ((desk.remove "ask").remove "welcome") := rfl
  have deletions := Relation.ReflTransGen.single (Edited.delete unasked) |>.tail (.delete emptied)
  have first : Plan.make ((desk.remove "ask").remove "welcome") parting none =
      .ok (partingPlan "" [] false) := by decide +kernel
  have refilled : ((desk.remove "ask").remove "welcome").apply (partingPlan "" [] false) = .ok _ :=
    rfl
  have refill := deletions.tail (.insert first refilled)
  have added : Plan.make desk parting none =
      .ok (partingPlan "ask" [⟨some "welcome", false, some "ok", false⟩] true) := by
    decide +kernel
  have preceded : desk.apply
      (partingPlan "ask" [⟨some "welcome", false, some "ok", false⟩] true) = .ok _ := rfl
  have ready : astray.LeadByText := by
    rintro routes ⟨⟩ route member target isTarget
    obtain rfl := List.mem_singleton.mp member
    exact ⟨"", (Option.some.inj isTarget).symm⟩
  have change := Relation.ReflTransGen.single (Edited.insert added preceded) |>.tail
    (.update ready (show Graph.update _ "parting" astray = .ok _ from rfl))
  refine ⟨kept, texts, read, ⟨_, deletions, rfl, ?_⟩, ⟨_, refill, rfl, ?_⟩, _, change, rfl, ?_⟩
  · exact (violations_reached_iff kept texts read deletions).mpr fun _ member => nomatch member
  · exact (violations_reached_iff kept texts read refill).mpr (by decide)
  · rw [Ne, violations_reached_iff kept texts read change]
    decide

end Graph

end StepFlow
