import StepFlow.Command.Run
import StepFlow.Proofs.Edit.Closure
import StepFlow.Proofs.Files.Changes

/-! What the steps of a task come to. Main statements: all steps but the writing leave files as they
are, an edit is read, made and finished whether or not it is written, and a task that writes what it
has checked has saved it over the version that it read. -/
namespace StepFlow

open Outcome

namespace Command

variable {α β : Type} {files : Files} {path : Path} {settings : Settings} {invocation : Invocation}
  {traces later : Traces} {graph updated : Graph} {catalog : Option Catalog} {version summary output : String}

/-! ### Steps -/

namespace Step

variable {x : Step α} {f : α → Step β} {a : α} {result : Except Failure α}

theorem runFrom_pure : runFrom (pure a : Step α) traces = (.ok a, traces) := rfl

theorem runFrom_throw {trouble : Trouble} : runFrom (throw trouble : Step α) traces = (.error trouble, traces) :=
  rfl

theorem lift_eq_ok : runFrom (lift result) traces = (.ok a, later) ↔ result = .ok a ∧ later = traces := by
  cases result with
  | ok value => simp [lift, runFrom_pure, eq_comm]
  | error failure => simp [lift, runFrom_throw]

theorem lift_bind_eq_ok {f : α → Step β} {b : β} : runFrom (lift result >>= f) traces = (.ok b, later) ↔
    ∃ a, result = .ok a ∧ runFrom (f a) traces = (.ok b, later) := by
  rw [runFrom_bind_eq_ok]
  constructor
  · rintro ⟨a, middle, lifted, rest⟩
    obtain ⟨succeeds, same⟩ := lift_eq_ok.mp lifted
    exact ⟨a, succeeds, same ▸ rest⟩
  · rintro ⟨a, succeeds, rest⟩
    exact ⟨a, traces, lift_eq_ok.mpr ⟨succeeds, rfl⟩, rest⟩

theorem change_eq_ok {change : Change α} : runFrom (Step.change change) traces = (.ok a, later) ↔
    ∃ after, change.outcome traces.files = (.ok a, after) ∧ later = { traces with files := after } := by
  have whole : runFrom (Step.change change) traces = runFrom (lift (change.outcome traces.files).1)
    { traces with files := (change.outcome traces.files).2 } := rfl
  rw [whole, lift_eq_ok]
  constructor
  · rintro ⟨succeeds, rfl⟩
    exact ⟨_, Prod.ext succeeds rfl, rfl⟩
  · rintro ⟨after, done, rfl⟩
    rw [done]
    exact ⟨rfl, rfl⟩

theorem say_eq_ok [Execution] {text said : String} : runFrom (say text) traces = (.ok said, later) ↔
    Execution.refusal? text = none ∧ said = text ∧ later = traces := by
  unfold say
  cases refused : Execution.refusal? text with
  | none => simp [runFrom_pure, eq_comm]
  | some report => simp [runFrom_throw]

/-- The files are left as they are. -/
def KeepsFiles (x : Step α) : Prop :=
  ∀ traces, (runFrom x traces).2.files = traces.files

theorem KeepsFiles.files_eq (keeps : x.KeepsFiles) {ending : Except Trouble α}
    (done : runFrom x traces = (ending, later)) : later.files = traces.files := by
  have kept := keeps traces
  rwa [done] at kept

theorem KeepsFiles.bind (first : x.KeepsFiles) (rest : ∀ a, (f a).KeepsFiles) :
    (x >>= f).KeepsFiles := by
  intro traces
  rcases done : runFrom x traces with ⟨_ | a, middle⟩
  · rw [runFrom_bind_of_error done]
    exact first.files_eq done
  · rw [runFrom_bind_of_ok done, rest a middle]
    exact first.files_eq done

theorem keepsFiles_pure : (pure a : Step α).KeepsFiles :=
  fun _ => rfl

theorem keepsFiles_throw {trouble : Trouble} : (throw trouble : Step α).KeepsFiles :=
  fun _ => rfl

theorem keepsFiles_warn {warnings : List Warning} : (warn warnings).KeepsFiles :=
  fun _ => rfl

theorem keepsFiles_lift : (lift result).KeepsFiles := by
  cases result with
  | ok => exact keepsFiles_pure
  | error => exact keepsFiles_throw

end Step

/-! ### What a task is given -/

theorem keepsFiles_readRouting {name : Option String} : (readRouting files name).KeepsFiles := by
  unfold readRouting
  split
  · exact Step.keepsFiles_pure
  · split
    · exact Step.keepsFiles_pure
    all_goals exact Step.keepsFiles_throw

theorem keepsFiles_routingOptions {switches : RoutingSwitches} :
    (routingOptions files switches).KeepsFiles :=
  keepsFiles_readRouting.bind fun _ => Step.keepsFiles_pure

theorem keepsFiles_readAnswersFile {name : Option String} : (readAnswersFile files name).KeepsFiles := by
  cases name with
  | none => exact Step.keepsFiles_pure
  | some name => exact Step.keepsFiles_lift.bind fun _ => Step.keepsFiles_pure

theorem keepsFiles_plan {request : Request} : (plan graph request catalog).KeepsFiles := by
  unfold plan
  split
  · exact Step.keepsFiles_pure
  all_goals exact Step.keepsFiles_throw

/-- The paths under which a task looks for manifests. -/
def Invocation.manifestPaths (invocation : Invocation) (settings : Settings) : List Path :=
  (if invocation.catalogPaths.isEmpty then settings.catalogPaths else invocation.catalogPaths).map .ofText

/-- The task writes nothing that it has not checked. -/
def Task.IsChecked : Task → Prop
  | .addStep .. => True
  | .updateStep .. => True
  | .deleteStep .. => False
  | .validate => False

theorem Task.IsChecked.ne_validate {task : Task} (isChecked : task.IsChecked) : task ≠ .validate := by
  rintro rfl
  exact isChecked

/-! ### Trouble -/

theorem failureStatus?_ne_success {failure : Failure} : failureStatus? failure ≠ some .success := by
  unfold failureStatus?
  split
  case h_3 => split <;> simp
  all_goals simp

/-- Trouble is reported as such. -/
theorem settle_ne_success {trouble : Trouble} {printed : String × String} :
    settle invocation trouble ≠ .ok (.success, printed) := by
  unfold settle
  split
  · exact nofun
  · exact nofun
  · exact nofun
  · split
    · rename_i status known
      rintro same
      have isSuccess : status = .success := congrArg Prod.fst (Except.ok.inj same)
      exact failureStatus?_ne_success (isSuccess ▸ known)
    · exact nofun

/-! ### Reading and looking up -/

variable [Installation]

theorem readFlow_eq_ok : runFrom (readFlow files path) traces = (.ok (graph, version), later) ↔
    files.readFlow path = .ok (graph, version) ∧ later = traces := by
  unfold readFlow
  split
  · rename_i found read
    simp [read, Step.runFrom_pure, eq_comm]
  · rename_i read
    simp [read, Step.runFrom_throw]
  · rename_i read
    split
    all_goals simp [read, Step.runFrom_throw]
  · rename_i read
    simp [read, Step.runFrom_throw]

/-- The catalog under the paths, if there are any. -/
def Finds (files : Files) (paths : List Path) (catalog : Option Catalog) : Prop :=
  paths = [] ∧ catalog = none ∨
    paths ≠ [] ∧ ∃ found skipped, Catalog.load files paths = .ok (found, skipped) ∧ catalog = some found

theorem resolveCatalog_eq : resolveCatalog files invocation settings =
    match invocation.manifestPaths settings with
    | [] => do
      Step.warn [.catalogMissing]
      return none
    | paths => do
      let (catalog, skipped) ← Step.lift (Catalog.load files paths)
      Step.warn (skipped.map .manifestSkipped)
      return some catalog := by
  unfold resolveCatalog Invocation.manifestPaths
  dsimp only
  generalize (if invocation.catalogPaths.isEmpty then settings.catalogPaths
    else invocation.catalogPaths) = names
  cases names with
  | nil => rfl
  | cons name names => rfl

theorem exists_resolveCatalog_iff :
    (∃ later, runFrom (resolveCatalog files invocation settings) traces = (.ok catalog, later)) ↔
      Finds files (invocation.manifestPaths settings) catalog := by
  rw [resolveCatalog_eq, Finds]
  cases invocation.manifestPaths settings with
  | nil =>
    constructor
    · rintro ⟨later, done⟩
      exact .inl ⟨rfl, (Except.ok.inj (Prod.mk.inj done).1).symm⟩
    · rintro (⟨-, rfl⟩ | ⟨nonempty, -⟩)
      · exact ⟨_, rfl⟩
      · contradiction
  | cons path paths =>
    constructor
    · rintro ⟨later, done⟩
      obtain ⟨⟨found, skipped⟩, middle, loaded, rest⟩ := runFrom_bind_eq_ok.mp done
      exact .inr ⟨nofun, found, skipped, (Step.lift_eq_ok.mp loaded).1,
        (Except.ok.inj (Prod.mk.inj rest).1).symm⟩
    · rintro (⟨empty, -⟩ | ⟨-, found, skipped, loaded, rfl⟩)
      · cases empty
      · exact ⟨_, runFrom_bind_eq_ok.mpr
          ⟨(found, skipped), traces, Step.lift_eq_ok.mpr ⟨loaded, rfl⟩, rfl⟩⟩

theorem keepsFiles_resolveCatalog : (resolveCatalog files invocation settings).KeepsFiles := by
  rw [resolveCatalog_eq]
  split
  · exact Step.keepsFiles_warn.bind fun _ => Step.keepsFiles_pure
  · exact Step.keepsFiles_lift.bind fun _ => Step.keepsFiles_warn.bind fun _ => Step.keepsFiles_pure

theorem keepsFiles_describe {component : String} {payload packAlias operation : Option String}
    {routing : RoutingSwitches} :
    (describe files component payload packAlias operation routing).KeepsFiles :=
  keepsFiles_routingOptions.bind fun _ => Step.keepsFiles_lift.bind fun _ =>
    Step.keepsFiles_lift.bind fun _ => Step.keepsFiles_lift.bind fun _ => Step.keepsFiles_pure

/-! ### Editing -/

variable [Execution]

/-- The graph that a task makes of the one that was read, and what it says of that. -/
def edit (files : Files) (settings : Settings) (invocation : Invocation) (graph : Graph) :
    Step (Graph × String) :=
  match invocation.task with
  | .addStep component payload packAlias operation after hint allowCycles routing => do
    let catalog ← resolveCatalog files invocation settings
    let (members, needsPlaceholder) ← describe files component payload packAlias operation routing
    let request : Request :=
      { after := after.map .str
        hint
        node := .map members
        allowCycles := allowCycles || settings.allowCycles
        requirePlaceholder := needsPlaceholder && settings.requirePlaceholder }
    let plan ← plan graph request catalog
    let updated ← Step.lift (graph.applyChecked plan catalog)
    return (updated, s!"added step '{plan.node.id.text}'")
  | .updateStep step operation answers answersFile routing => do
    let catalog ← resolveCatalog files invocation settings
    let answers ← Step.lift (readAnswers (← readAnswersFile files answersFile) answers)
    let routes ← Step.lift (← routingOptions files routing).override
    let overrides : Overrides := ⟨operation, answers.map .map, routes.map .routes⟩
    if overrides.isEmpty then Step.warn [.noOverrides step]
    let updated ← Step.lift (graph.updateChecked (.str step) overrides catalog)
    return (updated, s!"updated step '{step}'")
  | .deleteStep step strategy fanIn => do
    let updated ← Step.lift (graph.delete (.str step) (strategy.getD settings.strategy)
      (fanIn.getD settings.fanIn))
    return (updated, s!"deleted step '{step}'")
  | .validate => return (graph, "")

theorem carryOut_eq_edit (isEdit : invocation.task ≠ .validate) : carryOut files settings invocation = (do
    let (graph, version) ← readFlow files invocation.flow
    let (updated, summary) ← edit files settings invocation graph
    finish invocation settings updated version summary) := by
  unfold carryOut edit
  refine bind_congr fun ⟨graph, version⟩ => ?_
  cases task : invocation.task with
  | addStep => simp
  | updateStep step operation answers answersFile routing =>
    simp only [bind_assoc]
    refine bind_congr fun catalog => ?_
    refine bind_congr fun text => ?_
    refine bind_congr fun answers => ?_
    refine bind_congr fun options => ?_
    refine bind_congr fun routes => ?_
    split
    · simp
    · simp
  | deleteStep => simp
  | validate => contradiction

theorem keepsFiles_edit : (edit files settings invocation graph).KeepsFiles := by
  unfold edit
  cases invocation.task with
  | addStep =>
    exact keepsFiles_resolveCatalog.bind fun _ => keepsFiles_describe.bind fun _ =>
      keepsFiles_plan.bind fun _ => Step.keepsFiles_lift.bind fun _ => Step.keepsFiles_pure
  | updateStep =>
    refine keepsFiles_resolveCatalog.bind fun _ => keepsFiles_readAnswersFile.bind fun _ =>
      Step.keepsFiles_lift.bind fun _ => keepsFiles_routingOptions.bind fun _ =>
      Step.keepsFiles_lift.bind fun _ => ?_
    have ends {edited : Except Failure Graph} {summary : String} :
        (Step.lift edited >>= fun updated => pure (updated, summary)).KeepsFiles :=
      Step.keepsFiles_lift.bind fun _ => Step.keepsFiles_pure
    dsimp only
    split
    · exact Step.keepsFiles_warn.bind fun _ => ends
    · exact ends
  | deleteStep => exact Step.keepsFiles_lift.bind fun _ => Step.keepsFiles_pure
  | validate => exact Step.keepsFiles_pure

theorem edit_eq_ok (isChecked : invocation.task.IsChecked)
    (done : runFrom (edit files settings invocation graph) traces = (.ok (updated, summary), later)) :
    ∃ (catalog : Option Catalog) (candidate : Graph) (location : String),
      Finds files (invocation.manifestPaths settings) catalog ∧
      candidate.checked catalog location = .ok updated := by
  have ends {edited : Except Failure Graph} {said : String} {traces : Traces}
      (done : runFrom (Step.lift edited >>= fun updated => pure (updated, said)) traces =
        (.ok (updated, summary), later)) : edited = .ok updated := by
    obtain ⟨result, isEdited, same⟩ := Step.lift_bind_eq_ok.mp done
    obtain ⟨same, -⟩ := Prod.mk.inj same
    obtain ⟨rfl, -⟩ := Prod.mk.inj (Except.ok.inj same)
    exact isEdited
  unfold edit at done
  cases task : invocation.task with
  | addStep component payload packAlias operation after hint allowCycles routing =>
    simp only [task] at done
    obtain ⟨catalog, found, resolved, rest⟩ := runFrom_bind_eq_ok.mp done
    obtain ⟨⟨members, needsPlaceholder⟩, described, describes, rest⟩ := runFrom_bind_eq_ok.mp rest
    obtain ⟨plan, planned, plans, rest⟩ := runFrom_bind_eq_ok.mp rest
    obtain ⟨candidate, -, passed⟩ := bind_eq_ok.mp (ends rest)
    exact ⟨catalog, candidate, _, exists_resolveCatalog_iff.mp ⟨found, resolved⟩, passed⟩
  | updateStep step operation answers answersFile routing =>
    simp only [task] at done
    obtain ⟨catalog, found, resolved, rest⟩ := runFrom_bind_eq_ok.mp done
    obtain ⟨text, textRead, readsText, rest⟩ := runFrom_bind_eq_ok.mp rest
    obtain ⟨data, -, rest⟩ := Step.lift_bind_eq_ok.mp rest
    obtain ⟨options, optionsRead, readsOptions, rest⟩ := runFrom_bind_eq_ok.mp rest
    obtain ⟨routes, -, rest⟩ := Step.lift_bind_eq_ok.mp rest
    generalize Overrides.mk operation (data.map .map) (routes.map .routes) = overrides at rest
    have updates : graph.updateChecked (.str step) overrides catalog = .ok updated := by
      split at rest
      · obtain ⟨⟨⟩, warned, warns, rest⟩ := runFrom_bind_eq_ok.mp rest
        exact ends rest
      · exact ends rest
    obtain ⟨candidate, -, passed⟩ := bind_eq_ok.mp updates
    exact ⟨catalog, candidate, _, exists_resolveCatalog_iff.mp ⟨found, resolved⟩, passed⟩
  | deleteStep => exact (task ▸ isChecked).elim
  | validate => exact (task ▸ isChecked).elim

/-- An edit is read, made and finished. -/
theorem carryOut_edit_eq_ok (isEdit : invocation.task ≠ .validate) :
    runFrom (carryOut files settings invocation) traces = (.ok output, later) ↔
      ∃ graph version updated summary middle, files.readFlow invocation.flow = .ok (graph, version) ∧
        runFrom (edit files settings invocation graph) traces = (.ok (updated, summary), middle) ∧
        runFrom (finish invocation settings updated version summary) middle = (.ok output, later) := by
  rw [carryOut_eq_edit isEdit, runFrom_bind_eq_ok]
  constructor
  · rintro ⟨⟨graph, version⟩, middle, reads, rest⟩
    obtain ⟨read, rfl⟩ := readFlow_eq_ok.mp reads
    obtain ⟨⟨updated, summary⟩, after, edits, finishes⟩ := runFrom_bind_eq_ok.mp rest
    exact ⟨graph, version, updated, summary, after, read, edits, finishes⟩
  · rintro ⟨graph, version, updated, summary, middle, read, edits, finishes⟩
    exact ⟨(graph, version), traces, readFlow_eq_ok.mpr ⟨read, rfl⟩,
      runFrom_bind_eq_ok.mpr ⟨(updated, summary), middle, edits, finishes⟩⟩

/-! ### Writing -/

/-- What a run says that has written the flow. -/
def wroteLine (summary : String) (path : Path) : String :=
  s!"{summary}; wrote {path.text}\n"

/-- A run that writes ends with a save, if standard output takes what is said of it. -/
theorem exists_finish_iff (writes : invocation.write = true) :
    (∃ output, runFrom (finish invocation settings graph version summary) traces = (.ok output, later)) ↔
      (invocation.json = true ∨ Execution.refusal? (wroteLine summary invocation.flow) = none) ∧
      ∃ saved after, (Change.saveFlow invocation.flow graph (some version) settings.keepBackup).outcome
        traces.files = (.ok saved, after) ∧ later = { traces with files := after } := by
  simp only [finish, writes, if_true]
  constructor
  · rintro ⟨output, done⟩
    obtain ⟨saved, middle, changed, rest⟩ := runFrom_bind_eq_ok.mp done
    obtain ⟨after, saves, rfl⟩ := Step.change_eq_ok.mp changed
    split at rest
    · rename_i json
      exact ⟨.inl json, saved, after, saves, (Prod.mk.inj rest).2.symm⟩
    · obtain ⟨taken, -, same⟩ := Step.say_eq_ok.mp rest
      exact ⟨.inr taken, saved, after, saves, same⟩
  · rintro ⟨taken, saved, after, saves, rfl⟩
    have changed := Step.change_eq_ok.mpr ⟨after, saves, rfl⟩
    rw [runFrom_bind_of_ok changed]
    split
    · exact ⟨_, rfl⟩
    · rename_i plain
      exact ⟨_, Step.say_eq_ok.mpr ⟨taken.resolve_left plain, rfl, rfl⟩⟩

/-- A run that does not write prints the text of the graph, if standard output takes it. -/
theorem finish_eq_ok (dry : invocation.write = false) (plain : invocation.json = false) :
    runFrom (finish invocation settings graph version summary) traces = (.ok output, later) ↔
      graph.dump = .ok output ∧ Execution.refusal? output = none ∧ later = traces := by
  simp only [finish, dry, plain, Bool.false_eq_true, if_false]
  rw [Step.lift_bind_eq_ok]
  constructor
  · rintro ⟨text, dumped, done⟩
    obtain ⟨taken, rfl, rfl⟩ := Step.say_eq_ok.mp done
    exact ⟨dumped, taken, rfl⟩
  · rintro ⟨dumped, taken, rfl⟩
    exact ⟨output, dumped, Step.say_eq_ok.mpr ⟨taken, rfl, rfl⟩⟩

/-- A task that writes what it has checked has saved it over the version that it read. -/
theorem carryOut_eq_ok (isChecked : invocation.task.IsChecked) (writes : invocation.write = true)
    (done : runFrom (carryOut files settings invocation) traces = (.ok output, later)) :
    ∃ (graph : Graph) (version : String) (catalog : Option Catalog) (candidate : Graph)
        (location : String) (updated : Graph) (saved : String),
      files.readFlow invocation.flow = .ok (graph, version) ∧
      Finds files (invocation.manifestPaths settings) catalog ∧
      candidate.checked catalog location = .ok updated ∧
      (Change.saveFlow invocation.flow updated (some version) settings.keepBackup).outcome
        traces.files = (.ok saved, later.files) := by
  obtain ⟨graph, version, updated, summary, middle, read, edits, finishes⟩ :=
    (carryOut_edit_eq_ok isChecked.ne_validate).mp done
  obtain ⟨catalog, candidate, location, finds, passed⟩ := edit_eq_ok isChecked edits
  obtain ⟨-, saved, after, saves, rfl⟩ := (exists_finish_iff writes).mp ⟨output, finishes⟩
  rw [keepsFiles_edit.files_eq edits] at saves
  exact ⟨graph, version, catalog, candidate, location, updated, saved, read, finds, passed, saves⟩

/-- What validating a graph comes to once the catalog has been found. -/
theorem exists_carryOut_validate (validates : invocation.task = .validate)
    (read : files.readFlow invocation.flow = .ok (graph, version))
    (finds : Finds files (invocation.manifestPaths settings) catalog) : ∃ later,
      runFrom (carryOut files settings invocation) traces =
        runFrom (Step.lift (graph.validate catalog) >>= conclude invocation graph) later := by
  have reads : runFrom (readFlow files invocation.flow) traces = (.ok (graph, version), traces) :=
    readFlow_eq_ok.mpr ⟨read, rfl⟩
  obtain ⟨later, resolves⟩ := exists_resolveCatalog_iff.mpr finds
  refine ⟨later, ?_⟩
  rw [carryOut, runFrom_bind_of_ok reads]
  simp only [validates]
  rw [runFrom_bind_of_ok resolves]

omit [Installation] in
/-- A graph without findings passes, if standard output takes what is said of it. -/
theorem exists_conclude (taken : invocation.json = true ∨ Execution.refusal? (validLine graph) = none) :
    ∃ output, runFrom (conclude invocation graph []) traces = (.ok output, traces) := by
  rw [conclude]
  split
  · exact ⟨_, rfl⟩
  · rename_i plain
    exact ⟨_, Step.say_eq_ok.mpr ⟨taken.resolve_left plain, rfl, rfl⟩⟩

omit [Installation] in
/-- What standard output does not take is refused, though there are no findings. -/
theorem conclude_refused {report : String} (plain : invocation.json = false)
    (refused : Execution.refusal? (validLine graph) = some report) :
    runFrom (conclude invocation graph []) traces =
      (.error (.failure (.invalid (.unprintable report))), traces) := by
  rw [conclude, plain, Step.say, refused]
  rfl

/-! ### Whole runs -/

variable {environment : Environment} {outcome : Outcome} {settled : Settings.Resolved Settings}

/-- A run ends well exactly if its task is done. -/
theorem run_eq_ok_iff : invocation.run environment files = .ok outcome ∧ outcome.status = .success ↔
    ∃ settled output later, Settings.resolve environment Installation.configuration = .ok settled ∧
      runFrom (carryOut files settled.value invocation) ⟨settled.warnings, files⟩ = (.ok output, later) ∧
      outcome = ⟨.success, output, "", later⟩ := by
  constructor
  · rintro ⟨done, succeeded⟩
    obtain ⟨settled, resolved, rest⟩ := bind_eq_ok.mp done
    obtain ⟨result, later, carried⟩ : ∃ result later,
        runFrom (carryOut files settled.value invocation) ⟨settled.warnings, files⟩ = (result, later) :=
      ⟨_, _, rfl⟩
    have ran := carried
    unfold runFrom at ran
    dsimp only at rest
    rw [ran] at rest
    cases result with
    | ok output => exact ⟨settled, output, later, resolved, carried, (pure_eq_ok.mp rest).symm⟩
    | error trouble =>
      obtain ⟨⟨status, printed⟩, settles, same⟩ := bind_eq_ok.mp rest
      obtain rfl := pure_eq_ok.mp same
      obtain rfl : status = .success := succeeded
      exact absurd settles settle_ne_success
  · rintro ⟨settled, output, later, resolved, carried, rfl⟩
    unfold runFrom at carried
    refine ⟨bind_eq_ok.mpr ⟨settled, resolved, ?_⟩, rfl⟩
    dsimp only
    rw [carried]
    rfl

theorem exists_of_run_eq_ok (done : invocation.run environment files = .ok outcome)
    (succeeded : outcome.status = .success) :
    ∃ settled output, Settings.resolve environment Installation.configuration = .ok settled ∧
      runFrom (carryOut files settled.value invocation) ⟨settled.warnings, files⟩ =
        (.ok output, outcome.traces) := by
  obtain ⟨settled, output, later, resolved, carried, rfl⟩ := run_eq_ok_iff.mp ⟨done, succeeded⟩
  exact ⟨settled, output, resolved, carried⟩

theorem exists_run_of_carryOut (resolved : Settings.resolve environment Installation.configuration = .ok settled)
    (carried : runFrom (carryOut files settled.value invocation) ⟨settled.warnings, files⟩ =
      (.ok output, later)) :
    ∃ outcome, invocation.run environment files = .ok outcome ∧ outcome.status = .success :=
  ⟨_, run_eq_ok_iff.mpr ⟨settled, output, later, resolved, carried, rfl⟩⟩

def Trouble.status? (invocation : Invocation) (trouble : Trouble) : Option Status :=
  (settle invocation trouble).toOption.map Prod.fst

/-- The status of a run, if it ends with one. -/
def Invocation.status? (invocation : Invocation) (environment : Environment) (files : Files) :
    Option Status :=
  (invocation.run environment files).toOption.map Outcome.status

theorem status?_of_done {output : String} (resolved : Settings.resolve environment Installation.configuration = .ok settled)
    (carried : runFrom (carryOut files settled.value invocation) ⟨settled.warnings, files⟩ =
      (.ok output, later)) :
    invocation.status? environment files = some .success := by
  obtain ⟨outcome, done, succeeded⟩ := exists_run_of_carryOut resolved carried
  rw [Invocation.status?, done]
  exact congrArg some succeeded

theorem status?_of_trouble {trouble : Trouble} (resolved : Settings.resolve environment Installation.configuration = .ok settled)
    (carried : runFrom (carryOut files settled.value invocation) ⟨settled.warnings, files⟩ =
      (.error trouble, later)) :
    invocation.status? environment files = trouble.status? invocation := by
  unfold runFrom at carried
  simp only [Invocation.status?, Invocation.run, resolved, bind, Except.bind]
  rw [carried]
  cases settles : settle invocation trouble with
  | error failure =>
    simp only [Trouble.status?, settles]
    rfl
  | ok ending =>
    simp only [Trouble.status?, settles]
    rfl

/-- A run that finds nothing about a graph ends well, unless standard output does not take that. -/
theorem status?_of_validate (resolved : Settings.resolve environment Installation.configuration = .ok settled)
    (validates : invocation.task = .validate) (read : files.readFlow invocation.flow = .ok (graph, version))
    (finds : Finds files (invocation.manifestPaths settled.value) catalog)
    (valid : graph.validate catalog = .ok []) : invocation.status? environment files =
      if invocation.json = true ∨ Execution.refusal? (validLine graph) = none then some .success
      else some .refused := by
  obtain ⟨later, carried⟩ := exists_carryOut_validate validates read finds
  rw [valid] at carried
  split
  · rename_i taken
    obtain ⟨output, concluded⟩ := exists_conclude taken
    exact status?_of_done resolved (carried.trans concluded)
  · rename_i muted
    rw [not_or] at muted
    obtain ⟨plain, refused⟩ := muted
    obtain ⟨report, refused⟩ := Option.ne_none_iff_exists'.mp refused
    rw [status?_of_trouble resolved (carried.trans (conclude_refused (Bool.eq_false_iff.mpr plain) refused))]
    rfl

section

variable {arguments : List String} (asked : Invocation.ofArguments arguments = .ok invocation)

include asked

theorem status_of_run :
    (run arguments environment files).toOption.map Outcome.status = invocation.status? environment files := by
  rw [run, asked]
  rfl

theorem exists_run_of_status? {status : Status} (ended : invocation.status? environment files = some status) :
    ∃ outcome, run arguments environment files = .ok outcome ∧ outcome.status = status := by
  rw [← status_of_run asked] at ended
  cases result : run arguments environment files with
  | ok outcome =>
    rw [result] at ended
    exact ⟨outcome, rfl, Option.some.inj ended⟩
  | error failure =>
    rw [result] at ended
    cases ended

end

end Command

end StepFlow
