import StepFlow.Proofs.Command.Steps
import StepFlow.Proofs.Document.Acceptance
import StepFlow.Proofs.Files.Saving

/-! The status that checking a flow ends with. Main statement: without a catalog it is the one that
the flow deserves, unless its file holds no text or a value that is nothing, or what it is refused for
cannot be told; then the run ends as if the flow had been read, or without a report. And a flow without
findings is refused where standard output does not take its id. -/
namespace StepFlow

open Outcome Files

/-! ### Reading a document -/

namespace Graph

variable {members : Members} {graph : Graph} {target : Value}

theorem isScalar_of_defaultTarget? (kept : Schema.document (.map members) = [])
    (isStart : defaultTarget? members = .ok (some target)) : ∃ id, target = .scalar id := by
  unfold defaultTarget? at isStart
  split at isStart
  · rename_i start given
    cases isStart
    obtain ⟨s, -, rfl⟩ := isGivenText_of_start kept given
    exact ⟨_, rfl⟩
  · cases isStart
  · rename_i nodes _ given
    have found := (Option.filter_eq_some_iff.mp given).1
    obtain rfl := Option.some.inj (found.symm.trans (get?_nodes_of_kept kept))
    obtain ⟨holds, -, isStart⟩ := bind_eq_ok.mp isStart
    split at isStart
    · cases isStart
      exact ⟨_, rfl⟩
    · cases held : heldNodes (.map members) with
      | nil => simp [held, Value.items?, Keyed.keys, bind, Except.bind, pure, Except.pure] at isStart
      | cons first rest =>
        rw [held] at isStart
        cases isStart
        exact ⟨_, rfl⟩

/-- A document that keeps the rules is entered at something that can be looked up. -/
theorem entryFits_of_kept (kept : Schema.document (.map members) = [])
    (read : ofDocument? (.map members) = .ok graph) : graph.entryFits = true := by
  unfold entryFits
  split
  · rfl
  · rename_i entry other first
    exfalso
    have member : entry ∈ graph.entrypoints := List.mem_of_mem_head? first
    rcases of_mem_resolveEntrypoints (entrypoints_of_ofDocument? read) member with
      ⟨target, isStart, rfl⟩ | ⟨declared, given, isDeclared, isGiven, -, same⟩
    · obtain ⟨id, rfl⟩ := isScalar_of_defaultTarget? kept isStart
      exact other _ _ rfl
    · obtain ⟨s, -, isText⟩ := isGivenText_of_mem_declared kept isDeclared given isGiven
      exact other entry.1 (.str s) (Prod.ext rfl (same.trans isText))
  · rfl

end Graph

namespace Command

variable {files : Files} {path : Path} {graph : Graph} {failure : Failure} {text : String}
  {content : ByteArray}

/-- The text in the file under the path. -/
def HoldsText (files : Files) (path : Path) (text : String) : Prop :=
  ∃ content, files.read path = .ok content ∧ textOf content = .ok text

/-- The status of a run that does not get to read its flow. -/
def unreadStatus? : Failure → Option Status
  | .flow _ => some .fatal
  | failure => failureStatus? failure

/-! ### Files -/

theorem status_of_walk {shown : String} {place : Place} {names : List String} {fault : FileFault}
    (failed : files.walk shown place names = .error fault) : unreadStatus? (.file fault) = some .fatal := by
  induction names generalizing place with
  | nil => cases failed
  | cons name names ih =>
    unfold Files.walk at failed
    split at failed
    · cases failed
      rfl
    · cases failed
      rfl
    · cases failed
      rfl
    · split at failed
      · cases failed
        rfl
      · exact ih failed

theorem status_of_locate {fault : FileFault} (failed : files.locate path = .error fault) :
    (∃ report, fault = .unnameable report) ∨ unreadStatus? (.file fault) = some .fatal := by
  unfold Files.locate at failed
  split at failed
  · cases failed
    exact .inl ⟨_, rfl⟩
  · split at failed
    · cases failed
      exact .inr rfl
    · exact .inr (status_of_walk failed)

/-- What cannot be looked for is no flow. -/
theorem status_of_unseen {fault : FileFault} (failed : files.look? path = .error fault) :
    unreadStatus? (.file fault) = some .fatal := by
  unfold Files.look? at failed
  split at failed
  · cases failed
  · rename_i reason looked
    split at failed
    · cases failed
    rename_i unseen
    cases failed
    unfold Files.look at looked
    cases located : files.locate path with
    | error other =>
      rw [located] at looked
      cases looked
      rcases status_of_locate located with ⟨report, rfl⟩ | isFatal
      · exact absurd rfl unseen
      · exact isFatal
    | ok place =>
      rw [located] at looked
      simp only [bind, Except.bind] at looked
      split at looked
      · cases looked
      · cases looked
        exact absurd rfl unseen

/-- Bytes that are a text are one that can be held, or the reading ends for that. -/
theorem textOf_of_decode (decoded : Utf8.decode content = .ok text) :
    textOf content = .ok text ∨ textOf content = .error (.data .outside) := by
  rw [textOf, decoded]
  cases whole : Surrogate.isWhole text with
  | true => exact .inl (if_pos whole)
  | false => exact .inr (if_neg (by simp [whole]))

theorem textOf_eq_error {fault : Utf8.Fault} (undecoded : Utf8.decode content = .error fault) :
    textOf content = .error (.encoding fault) := by
  rw [textOf, undecoded]
  rfl

theorem violations_eq {value : Value} : Schema.violations value =
    if (Schema.document value).all Schema.Finding.isWritable then .ok (Schema.listed (Schema.document value))
    else .error (.invalid .longInteger) := by
  cases writable : (Schema.document value).all Schema.Finding.isWritable <;>
    simp only [Schema.violations, writable] <;> rfl

theorem tells_of_findings {catalog : Option Catalog} (valid : graph.findings catalog = []) :
    (graph.canTellEntry && graph.nodes.all (graph.canTellNode catalog)) = true := by
  obtain ⟨entry, nodes⟩ := List.append_eq_nil_iff.mp valid
  rw [List.flatMap_eq_nil_iff] at nodes
  rw [Bool.and_eq_true, List.all_eq_true]
  constructor
  · unfold Graph.entryFindings at entry
    unfold Graph.canTellEntry
    split
    · rename_i name target first
      rw [first] at entry
      simp only at entry
      split at entry
      · simp_all
      · cases entry
    · rfl
  · intro node member
    simp [Graph.canTellNode, nodes node member]

theorem exists_validate (fits : graph.entryFits = true) :
    graph.validate none = .ok (graph.findings none) ∨
      graph.validate none = .error (.invalid .longInteger) ∧ graph.findings none ≠ [] := by
  cases tells : graph.canTellEntry && graph.nodes.all (graph.canTellNode none) with
  | false =>
    refine .inr ⟨?_, fun valid => Bool.false_ne_true (tells.symm.trans (tells_of_findings valid))⟩
    simp only [Graph.validate, fits, tells]
    rfl
  | true =>
    refine .inl ?_
    simp only [Graph.validate, fits, tells]
    rfl

variable [Installation]

/-- The graph in the file under the path: its text spells a mapping that keeps the rules, and none of
the nodes in it is refused. -/
def HoldsGraph (files : Files) (path : Path) (graph : Graph) : Prop :=
  ∃ text members, HoldsText files path text ∧ Yaml.read text = .ok (.map members) ∧
    Schema.document (.map members) = [] ∧ Graph.ofDocument? (.map members) = .ok graph

/-- The status that a flow should end with when it is checked. -/
inductive Deserves (files : Files) (path : Path) : Status → Prop where
  | fatal : (∀ graph, ¬ HoldsGraph files path graph) → Deserves files path .fatal
  | refused {graph : Graph} : HoldsGraph files path graph → graph.findings none ≠ [] →
      Deserves files path .refused
  | success {graph : Graph} : HoldsGraph files path graph → graph.findings none = [] →
      Deserves files path .success

/-- The ways of holding no graph that are not noticed as such, with the status that they end with
where they end with any. -/
inductive Slips (files : Files) (path : Path) : Option Status → Prop where
  | bytes {content : ByteArray} {fault : Utf8.Fault} : files.read path = .ok content →
      Utf8.decode content = .error fault → Slips files path (some .refused)
  | value {text : String} {fault : Yaml.ValueFault} : HoldsText files path text →
      Yaml.read text = .error (.value fault) →
      Slips files path (if fault.isRefusal then some .refused else none)
  /-- A violation of the rules shows an integer that is too long. -/
  | rules {text : String} {members : Members} : HoldsText files path text →
      Yaml.read text = .ok (.map members) →
      (Schema.document (.map members)).all Schema.Finding.isWritable = false →
      Slips files path (some .refused)
  /-- The first node that is refused has an integer for its id that is too long. -/
  | id {text : String} {members body : Members} {id : Scalar} : HoldsText files path text →
      Yaml.read text = .ok (.map members) → Schema.document (.map members) = [] →
      Graph.FirstRefused (.map members) id body → Node.IsMisshapen body → id.isWritable = false →
      Slips files path (some .refused)
  /-- The first node that is refused names its component by something else than a text. -/
  | key {text : String} {members body : Members} {id : Scalar} : HoldsText files path text →
      Yaml.read text = .ok (.map members) → Schema.document (.map members) = [] →
      Graph.FirstRefused (.map members) id body → Node.NamesNoText body → Slips files path none

theorem readFlow_of_read (read : files.read path = .ok content) : files.readFlow path =
    textOf content >>= fun text =>
      Graph.load text path.text >>= fun graph => pure (graph, Digest.text content) := by
  simp only [Files.readFlow, Files.requireFlow, Files.look?_of_read read, read]
  rfl

theorem readFlow_of_text (held : HoldsText files path text) : ∃ version,
    files.readFlow path = (Graph.load text path.text).map (·, version) := by
  obtain ⟨content, read, decoded⟩ := held
  refine ⟨Digest.text content, ?_⟩
  rw [readFlow_of_read read, decoded]
  change Graph.load text path.text >>= _ = _
  cases Graph.load text path.text <;> rfl

/-- A file that cannot be read is no flow. -/
theorem status_of_unread (failed : files.readFlow path = .error failure) {fault : FileFault}
    (unread : files.read path = .error fault) : unreadStatus? failure = some .fatal := by
  unfold Files.readFlow Files.requireFlow at failed
  cases there : files.look? path with
  | error reason =>
    rw [there] at failed
    cases failed
    exact status_of_unseen there
  | ok found =>
    rw [there] at failed
    cases found with
    | none =>
      cases failed
      rfl
    | some entry =>
      rw [unread] at failed
      cases failed
      unfold Files.read at unread
      rw [Files.look?_eq_ok_some_iff.mp there] at unread
      cases entry with
      | file content => cases unread
      | directory =>
        cases unread
        rfl
      | link target =>
        cases unread
        rfl

/-! ### Texts -/

theorem load_of_read {label : String} {members : Members} (spelled : Yaml.read text = .ok (.map members)) :
    Graph.load text label = Graph.ofChecked? members label := by
  rw [Graph.load, parseDocument, spelled]
  rfl

theorem load_of_kept {label : String} {members : Members} (spelled : Yaml.read text = .ok (.map members))
    (kept : Schema.document (.map members) = []) :
    Graph.load text label = Graph.ofDocument? (.map members) := by
  rw [load_of_read spelled, Graph.ofChecked?, Schema.violations_eq_ok_nil_iff.mpr kept]

/-- A document that is refused is refused for good, or its file slips through. -/
theorem status_of_ofChecked? {label : String} {members : Members} (held : HoldsText files path text)
    (spelled : Yaml.read text = .ok (.map members))
    (failed : Graph.ofChecked? members label = .error failure) :
    unreadStatus? failure = some .fatal ∨ Slips files path (unreadStatus? failure) := by
  unfold Graph.ofChecked? at failed
  split at failed
  · rename_i kept
    have kept := Schema.violations_eq_ok_nil_iff.mp kept
    obtain ⟨id, body, first, ⟨misshapen, rfl⟩ | ⟨untold, rfl⟩⟩ :=
      (Graph.nodesOf_eq_error_iff kept).mp ((Graph.ofDocument?_eq_error_iff kept).mp failed)
    · rw [ShapeFault.onNode_eq]
      split
      · exact .inl rfl
      · rename_i unwritable
        exact .inr (.id held spelled kept first misshapen (Bool.eq_false_iff.mpr unwritable))
    · exact .inr (.key held spelled kept first untold)
  · cases failed
    exact .inl rfl
  · rename_i reason unchecked
    cases failed
    rw [violations_eq] at unchecked
    split at unchecked
    · cases unchecked
    · rename_i unwritable
      cases unchecked
      exact .inr (.rules held spelled (Bool.eq_false_iff.mpr unwritable))

theorem status_of_load {label : String} (held : HoldsText files path text)
    (failed : Graph.load text label = .error failure) (inside : failure ≠ .data .outside) :
    unreadStatus? failure = some .fatal ∨ Slips files path (unreadStatus? failure) := by
  cases spelled : Yaml.read text with
  | ok value =>
    cases value with
    | map members =>
      rw [load_of_read spelled] at failed
      exact status_of_ofChecked? held spelled failed
    | _ =>
      rw [Graph.load, parseDocument, spelled] at failed
      cases failed
      exact .inl rfl
  | error reason =>
    rw [Graph.load, parseDocument, spelled] at failed
    cases reason with
    | value fault =>
      cases failed
      exact .inr (.value held spelled)
    | outside =>
      cases failed
      contradiction
    | _ =>
      cases failed
      exact .inl rfl

theorem holdsGraph_iff :
    HoldsGraph files path graph ↔ ∃ version, files.readFlow path = .ok (graph, version) := by
  constructor
  · rintro ⟨text, members, held, spelled, kept, isGraph⟩
    obtain ⟨version, read⟩ := readFlow_of_text held
    rw [load_of_kept spelled kept, isGraph] at read
    exact ⟨version, read⟩
  · rintro ⟨version, isRead⟩
    simp only [Files.readFlow, bind_eq_ok, mapError_eq_ok, pure_eq_ok, Prod.mk.injEq] at isRead
    obtain ⟨-, -, content, read, text, decoded, found, loaded, rfl, -⟩ := isRead
    obtain ⟨members, spelled, kept, isGraph⟩ := Graph.load_eq_ok_iff.mp loaded
    exact ⟨text, members, ⟨content, read, decoded⟩, spelled, Schema.violations_eq_ok_nil_iff.mp kept, isGraph⟩

/-- What holds no graph is refused for good, or slips through. -/
theorem status_of_readFlow (failed : files.readFlow path = .error failure) (inside : failure ≠ .data .outside) :
    unreadStatus? failure = some .fatal ∨ Slips files path (unreadStatus? failure) := by
  cases read : files.read path with
  | error fault => exact .inl (status_of_unread failed read)
  | ok content =>
    cases decoded : Utf8.decode content with
    | error fault =>
      rw [readFlow_of_read read, textOf_eq_error decoded] at failed
      cases failed
      exact .inr (.bytes read decoded)
    | ok text =>
      rcases textOf_of_decode decoded with whole | outside
      · have held : HoldsText files path text := ⟨content, read, whole⟩
        obtain ⟨version, same⟩ := readFlow_of_text held
        rw [same, map_eq_error] at failed
        exact status_of_load held failed inside
      · rw [readFlow_of_read read, outside] at failed
        cases failed
        contradiction

theorem readFlow_of_load (held : HoldsText files path text)
    (failed : Graph.load text path.text = .error failure) : files.readFlow path = .error failure := by
  obtain ⟨version, same⟩ := readFlow_of_text held
  rw [same, failed]
  rfl

theorem exists_readFlow_of_slips {ending : Option Status} (slips : Slips files path ending) :
    ∃ failure, files.readFlow path = .error failure ∧ unreadStatus? failure = ending := by
  cases slips with
  | bytes read undecoded =>
    exact ⟨_, by rw [readFlow_of_read read, textOf_eq_error undecoded]; rfl, rfl⟩
  | @value text fault held unspelled =>
    refine ⟨.data (.value fault), readFlow_of_load held ?_, rfl⟩
    rw [Graph.load, parseDocument, unspelled]
    rfl
  | rules held spelled unwritable =>
    refine ⟨.invalid .longInteger, readFlow_of_load held ?_, rfl⟩
    rw [load_of_read spelled, Graph.ofChecked?, violations_eq, unwritable]
    rfl
  | @id text members body id held spelled kept first misshapen unwritable =>
    refine ⟨.invalid .longInteger, readFlow_of_load held ?_, rfl⟩
    rw [load_of_kept spelled kept, Graph.ofDocument?_eq_error_iff kept, Graph.nodesOf_eq_error_iff kept]
    refine ⟨id, body, first, .inl ⟨misshapen, ?_⟩⟩
    rw [ShapeFault.onNode_eq, unwritable]
    rfl
  | @key text members body id held spelled kept first untold =>
    refine ⟨.misshapen .keyNotText, readFlow_of_load held ?_, rfl⟩
    rw [load_of_kept spelled kept, Graph.ofDocument?_eq_error_iff kept, Graph.nodesOf_eq_error_iff kept]
    exact ⟨id, body, first, .inr ⟨untold, rfl⟩⟩

theorem Slips.ne_fatal {ending : Option Status} (slips : Slips files path ending) :
    ending ≠ some .fatal := by
  cases slips with
  | value => split <;> simp
  | _ => simp

theorem Slips.not_holdsGraph {ending : Option Status} (slips : Slips files path ending) :
    ¬ HoldsGraph files path graph := by
  intro holds
  obtain ⟨failure, failed, -⟩ := exists_readFlow_of_slips slips
  obtain ⟨version, read⟩ := holdsGraph_iff.mp holds
  cases failed.symm.trans read

theorem Slips.eq_fatal {ending : Option Status} {status : Status} (slips : Slips files path ending)
    (deserves : Deserves files path status) : status = .fatal := by
  cases deserves with
  | fatal => rfl
  | refused holds => exact absurd holds slips.not_holdsGraph
  | success holds => exact absurd holds slips.not_holdsGraph

/-- It is entered at something that can be looked up. -/
theorem HoldsGraph.entryFits (holds : HoldsGraph files path graph) : graph.entryFits = true := by
  obtain ⟨-, members, -, -, kept, isGraph⟩ := holds
  exact Graph.entryFits_of_kept kept isGraph

theorem HoldsGraph.unique {other : Graph} (holds : HoldsGraph files path graph)
    (holdsToo : HoldsGraph files path other) : graph = other := by
  obtain ⟨version, read⟩ := holdsGraph_iff.mp holds
  obtain ⟨versionToo, readToo⟩ := holdsGraph_iff.mp holdsToo
  exact (Prod.mk.inj (Except.ok.inj (read.symm.trans readToo))).1

/-! ### Runs -/

variable {environment : Environment} {settings : Settings} {settled : Settings.Resolved Settings}
  {invocation : Invocation} {traces later : Traces} {version : String}

theorem exists_trouble_of_readFlow (failed : files.readFlow path = .error failure) : ∃ trouble : Trouble,
    runFrom (readFlow files path) traces = (.error trouble, traces) ∧
      trouble.status? invocation = unreadStatus? failure := by
  unfold readFlow
  rw [failed]
  split
  · contradiction
  · rename_i missing same
    cases same
    exact ⟨_, rfl, rfl⟩
  · rename_i fault same
    cases same
    split <;> exact ⟨_, rfl, rfl⟩
  · rename_i other missing flow same
    cases same
    refine ⟨_, rfl, ?_⟩
    cases failure with
    | flow fault => exact absurd rfl (flow fault)
    | _ =>
      simp only [Trouble.status?, settle, unreadStatus?]
      split <;> simp_all [Except.toOption]

variable [Execution]

/-- A flow without findings for which there is no line that standard output takes. -/
def IsMuted (files : Files) (invocation : Invocation) : Prop :=
  invocation.json = false ∧ ∃ graph, HoldsGraph files invocation.flow graph ∧ graph.findings none = [] ∧
    Execution.refusal? (validLine graph) ≠ none

section

variable (resolved : Settings.resolve environment Installation.configuration = .ok settled)
  (bare : invocation.manifestPaths settled.value = []) (validates : invocation.task = .validate)
  (holds : HoldsGraph files invocation.flow graph)

include resolved bare validates holds

/-- Checking a graph with findings is refused, even if they cannot be told. -/
theorem status?_of_findings (invalid : graph.findings none ≠ []) :
    invocation.status? environment files = some .refused := by
  obtain ⟨version, read⟩ := holdsGraph_iff.mp holds
  obtain ⟨later, carried⟩ := exists_carryOut_validate validates read (.inl ⟨bare, rfl⟩)
  rcases exists_validate holds.entryFits with told | ⟨untold, -⟩
  · obtain ⟨finding, findings, found⟩ := List.exists_cons_of_ne_nil invalid
    rw [told, found] at carried
    exact status?_of_trouble resolved carried
  · rw [untold] at carried
    exact status?_of_trouble resolved carried

/-- Checking a graph without findings ends well, unless standard output does not take that. -/
theorem status?_of_valid (valid : graph.findings none = []) : invocation.status? environment files =
    if invocation.json = true ∨ Execution.refusal? (validLine graph) = none then some .success
    else some .refused := by
  obtain ⟨version, read⟩ := holdsGraph_iff.mp holds
  have told : graph.validate none = .ok [] := by
    rcases exists_validate holds.entryFits with told | ⟨-, invalid⟩
    · rw [told, valid]
    · contradiction
  exact status?_of_validate resolved validates read (.inl ⟨bare, rfl⟩) told

end

theorem status?_of_unread (resolved : Settings.resolve environment Installation.configuration = .ok settled)
    (failed : files.readFlow invocation.flow = .error failure) :
    invocation.status? environment files = unreadStatus? failure := by
  obtain ⟨trouble, reads, status⟩ : ∃ trouble : Trouble, runFrom (readFlow files invocation.flow)
      ⟨settled.warnings, files⟩ = (.error trouble, ⟨settled.warnings, files⟩) ∧
      trouble.status? invocation = unreadStatus? failure := exists_trouble_of_readFlow failed
  have carried : runFrom (carryOut files settled.value invocation) ⟨settled.warnings, files⟩ =
      (.error trouble, ⟨settled.warnings, files⟩) := runFrom_bind_of_error reads
  rw [status?_of_trouble resolved carried, status]

theorem status?_of_slips {ending : Option Status} (resolved : Settings.resolve environment Installation.configuration = .ok settled)
    (slips : Slips files invocation.flow ending) : invocation.status? environment files = ending := by
  obtain ⟨failure, failed, isEnding⟩ := exists_readFlow_of_slips slips
  rw [status?_of_unread resolved failed, isEnding]

/-- A file that holds no graph is fatal, or it slips through. -/
theorem status?_of_lost (resolved : Settings.resolve environment Installation.configuration = .ok settled)
    (inside : files.readFlow invocation.flow ≠ .error (.data .outside))
    (lost : ∀ graph, ¬ HoldsGraph files invocation.flow graph) :
    invocation.status? environment files = some .fatal ∨
      Slips files invocation.flow (invocation.status? environment files) := by
  cases read : files.readFlow invocation.flow with
  | ok found => exact absurd (holdsGraph_iff.mpr ⟨found.2, read⟩) (lost found.1)
  | error failure =>
    rw [status?_of_unread resolved read]
    exact status_of_readFlow read fun same => inside (same ▸ read)

section

variable {arguments : List String} (asked : Invocation.ofArguments arguments = .ok invocation)

include asked

/-- Without a catalog, a flow is checked with the status that it deserves, unless it slips through or is
muted, if its text and the value that it spells can be held. -/
theorem run_validate_deserves (validates : invocation.task = .validate)
    (resolved : Settings.resolve environment Installation.configuration = .ok settled)
    (bare : invocation.manifestPaths settled.value = [])
    (inside : files.readFlow invocation.flow ≠ .error (.data .outside)) :
    ((∃ outcome, run arguments environment files = .ok outcome ∧
        Deserves files invocation.flow outcome.status) ↔
      (∀ ending, ¬ Slips files invocation.flow ending) ∧ ¬ IsMuted files invocation) ∧
    (∀ ending, Slips files invocation.flow ending →
      (run arguments environment files).toOption.map Outcome.status = ending) ∧
    (IsMuted files invocation → (run arguments environment files).toOption.map Outcome.status = some .refused) := by
  have slipping {ending : Option Status} (slips : Slips files invocation.flow ending) :
      (run arguments environment files).toOption.map Outcome.status = ending :=
    (status_of_run asked).trans (status?_of_slips resolved slips)
  have muting (muted : IsMuted files invocation) :
      (run arguments environment files).toOption.map Outcome.status = some .refused := by
    obtain ⟨plain, graph, holds, valid, refused⟩ := muted
    rw [status_of_run asked, status?_of_valid resolved bare validates holds valid, if_neg]
    simp [plain, refused]
  refine ⟨⟨?_, ?_⟩, fun ending => slipping, muting⟩
  · rintro ⟨outcome, done, deserves⟩
    refine ⟨fun ending slips => ?_, fun muted => ?_⟩
    · have isEnding := slipping slips
      rw [done] at isEnding
      exact slips.ne_fatal (isEnding.symm.trans (congrArg some (slips.eq_fatal deserves)))
    · have isRefused := muting muted
      rw [done] at isRefused
      obtain ⟨-, graph, holds, valid, -⟩ := muted
      have same : outcome.status = .refused := Option.some.inj isRefused
      rw [same] at deserves
      cases deserves with
      | refused holdsToo invalid => exact invalid (holds.unique holdsToo ▸ valid)
  · rintro ⟨safe, audible⟩
    by_cases held : ∃ graph, HoldsGraph files invocation.flow graph
    · obtain ⟨graph, holds⟩ := held
      by_cases valid : graph.findings none = []
      · have taken : invocation.json = true ∨ Execution.refusal? (validLine graph) = none := by
          by_contra muted
          rw [not_or] at muted
          exact audible ⟨Bool.eq_false_iff.mpr muted.1, graph, holds, valid, muted.2⟩
        obtain ⟨outcome, done, isStatus⟩ := exists_run_of_status? asked
          ((status?_of_valid resolved bare validates holds valid).trans (if_pos taken))
        exact ⟨outcome, done, isStatus ▸ .success holds valid⟩
      · obtain ⟨outcome, done, isStatus⟩ := exists_run_of_status? asked
          (status?_of_findings resolved bare validates holds valid)
        exact ⟨outcome, done, isStatus ▸ .refused holds valid⟩
    · have lost := not_exists.mp held
      have isFatal := (status?_of_lost resolved inside lost).resolve_right (safe _)
      obtain ⟨outcome, done, isStatus⟩ := exists_run_of_status? asked isFatal
      exact ⟨outcome, done, isStatus ▸ .fatal lost⟩

end

end Command

namespace Command

attribute [local instance] Installation.usual Execution.usual

def soleFile (content : ByteArray) : Files := ⟨[(["flow.ygtc"], .file content)]⟩

def checking : List String := ["validate", "flow.ygtc"]

def soleCheck : Invocation := ⟨⟨["flow.ygtc"]⟩, [], false, false, .validate⟩

theorem ofArguments_checking : Invocation.ofArguments checking = .ok soleCheck := by decide +kernel

theorem exists_resolve_soleCheck : ∃ settled, Settings.resolve [] Installation.configuration = .ok settled ∧
    soleCheck.manifestPaths settled.value = [] := by
  have bare : (Settings.resolve [] Installation.configuration).map
      (fun settled => soleCheck.manifestPaths settled.value) = .ok [] := by
    decide +kernel
  exact map_eq_ok.mp bare

/-- A flow that leads to a step that it does not have, and bytes that are no text. -/
def astray : Files :=
  soleFile "id: f\ntype: t\nnodes:\n  ask:\n    template: Hi\n    routing:\n      - to: gone\n".toUTF8

def garbled : Files := soleFile ⟨#[0xff]⟩

/-- A flow whose id is half a pair of surrogates. -/
def halved : Files := soleFile "id: \"\\uD800\"\ntype: t\nnodes: \x7b\x7d\n".toUTF8

/-- Whether there are no findings about the graph in a file, and whether standard output refuses the
line that says so. -/
def insight (files : Files) : Option (Bool × Bool) :=
  (files.readFlow soleCheck.flow).toOption.map fun found =>
    ((found.1.findings none).isEmpty, (Execution.refusal? (validLine found.1)).isSome)

theorem exists_readFlow_of_insight {files : Files} {isValid isMuted : Bool}
    (seen : insight files = some (isValid, isMuted)) : ∃ graph version,
      files.readFlow soleCheck.flow = .ok (graph, version) ∧ (graph.findings none).isEmpty = isValid ∧
        (Execution.refusal? (validLine graph)).isSome = isMuted := by
  unfold insight at seen
  cases read : files.readFlow soleCheck.flow with
  | error failure =>
    rw [read] at seen
    cases seen
  | ok found =>
    rw [read] at seen
    obtain ⟨valid, muted⟩ := Prod.mk.inj (Option.some.inj seen)
    exact ⟨_, _, rfl, valid, muted⟩

theorem slips_garbled : Slips garbled soleCheck.flow (some .refused) := by
  have read : garbled.read soleCheck.flow = .ok ⟨#[0xff]⟩ := by decide +kernel
  have undecoded : (Utf8.decode ⟨#[0xff]⟩).isOk = false := by decide +kernel
  cases decoded : Utf8.decode ⟨#[0xff]⟩ with
  | ok text => simp [decoded, Except.isOk, Except.toBool] at undecoded
  | error fault => exact .bytes read decoded

theorem readFlow_garbled : garbled.readFlow soleCheck.flow ≠ .error (.data .outside) := by
  obtain ⟨failure, failed, isRefused⟩ := exists_readFlow_of_slips slips_garbled
  rw [failed]
  rintro ⟨⟩
  cases isRefused

theorem run_validate_deserves_astray :
    (∃ outcome, run checking [] astray = .ok outcome ∧ Deserves astray soleCheck.flow outcome.status) ∧
    (run checking [] garbled).toOption.map Outcome.status = some .refused ∧
    (run checking [] halved).toOption.map Outcome.status = some .refused := by
  obtain ⟨settled, resolved, bare⟩ := exists_resolve_soleCheck
  have seen : insight astray = some (false, false) := by decide +kernel
  have seenToo : insight halved = some (true, true) := by decide +kernel
  obtain ⟨graph, version, read, invalid, -⟩ := exists_readFlow_of_insight seen
  obtain ⟨other, versionToo, readToo, valid, isMuted⟩ := exists_readFlow_of_insight seenToo
  have safe (ending : Option Status) : ¬ Slips astray soleCheck.flow ending := by
    intro slips
    obtain ⟨failure, failed, -⟩ := exists_readFlow_of_slips slips
    cases failed.symm.trans read
  have audible : ¬ IsMuted astray soleCheck := by
    rintro ⟨-, another, holds, none, -⟩
    obtain rfl := holds.unique (holdsGraph_iff.mpr ⟨version, read⟩)
    simp [none] at invalid
  have muted : IsMuted halved soleCheck :=
    ⟨rfl, other, holdsGraph_iff.mpr ⟨versionToo, readToo⟩, List.isEmpty_iff.mp valid,
      Option.isSome_iff_ne_none.mp isMuted⟩
  exact ⟨(run_validate_deserves ofArguments_checking rfl resolved bare (by simp [read])).1.mpr ⟨safe, audible⟩,
    (run_validate_deserves ofArguments_checking rfl resolved bare readFlow_garbled).2.1 _ slips_garbled,
    (run_validate_deserves ofArguments_checking rfl resolved bare (by simp [readToo])).2.2 muted⟩

/-- A flow with a number in the place of a component. -/
def numbered : Files := soleFile "id: f\ntype: t\nnodes:\n  a:\n    1: hi\n".toUTF8

/-- Bytes that are no text end like a flow with findings, and the number without a report. -/
theorem not_run_validate_deserves_garbled : Invocation.ofArguments checking = .ok soleCheck ∧
    (∃ settled, Settings.resolve [] Installation.configuration = .ok settled ∧
      soleCheck.manifestPaths settled.value = []) ∧
    (¬ ∃ outcome, run checking [] garbled = .ok outcome ∧ Deserves garbled soleCheck.flow outcome.status) ∧
    ∃ failure, run checking [] numbered = .error failure := by
  refine ⟨ofArguments_checking, exists_resolve_soleCheck, ?_, ?_⟩
  · rintro ⟨outcome, done, deserves⟩
    have isRefused : (run checking [] garbled).map Outcome.status = .ok .refused := by decide +kernel
    rw [done] at isRefused
    cases (slips_garbled.eq_fatal deserves).symm.trans (Except.ok.inj isRefused)
  · have escapes : (run checking [] numbered).isOk = false := by decide +kernel
    cases ended : run checking [] numbered with
    | ok outcome => simp [ended, Except.isOk, Except.toBool] at escapes
    | error failure => exact ⟨failure, rfl⟩

end Command

end StepFlow
