import StepFlow.Command.Invocation
import StepFlow.Edit.Options
import StepFlow.Edit.Update
import StepFlow.Files.Versions
import StepFlow.Json.Writer
import StepFlow.Report
import StepFlow.Settings

/-! Carrying out a command line: what it prints, what it reports, what becomes of the
files, and the status it ends with. -/
namespace StepFlow.Command

/-- The ways to end. -/
inductive Status where
  | success
  /-- The edit or the flow is refused. -/
  | refused
  /-- The input cannot be read. -/
  | fatal
  deriving DecidableEq

def Status.code : Status → UInt8
  | success => 0
  | refused => 1
  | fatal => 2

/-- Why a task is not done. -/
inductive Trouble where
  | unreadable (message : String)
  | findings (diagnostics : List Diagnostic) (message : String)
  | failure (failure : Failure)

/-- What stays of a task even if it is not done in the end. -/
structure Traces where
  warnings : List Warning
  files : Files

structure Outcome where
  status : Status
  output : String
  errors : String
  traces : Traces

/-- The steps of a task. -/
abbrev Step := ExceptT Trouble (StateM Traces)

variable [Installation] [Execution]

namespace Step

def warn (warnings : List Warning) : Step Unit :=
  modify fun traces => { traces with warnings := traces.warnings ++ warnings }

/-- A result that fails for good. -/
def lift {α : Type} (result : Except Failure α) : Step α :=
  match result with
  | .ok value => pure value
  | .error failure => throw (.failure failure)

/-- Lets standard output take a text. -/
def say (text : String) : Step String :=
  match Execution.refusal? text with
  | none => pure text
  | some report => throw (.failure (.invalid (.unprintable report)))

/-- Changes files. -/
def change {α : Type} (change : Change α) : Step α := do
  let (result, files) := (change.run (← get).files)
  modify fun traces => { traces with files }
  lift result

end Step

/-- A document as data that a program reads. -/
def printed (members : Members) : String :=
  Json.render (.map members) ++ "\n"

/-- Reads the document. That it is missing or invalid is the end. -/
def readFlow (files : Files) (path : Path) : Step (Graph × String) :=
  match files.readFlow path with
  | .ok found => pure found
  | .error (.file (.flowMissing missing)) =>
    throw (.unreadable (FileFault.flowMissing missing).message)
  | .error (.flow fault) =>
    match fault with
    | .document .. | .schema .. => throw (.unreadable fault.text)
    | _ => throw (.unreadable s!"{path.text}: {fault.text}")
  | .error failure => throw (.failure failure)

/-- The text of the file with routing. -/
def readRouting (files : Files) : Option String → Step (Option String)
  | none => pure none
  | some name =>
    match files.readText (.ofText name) with
    | .ok text => pure (some text)
    | .error (.file (.unnameable report)) => throw (.failure (.file (.unnameable report)))
    | .error (.file fault) => throw (.unreadable s!"cannot read {name}: {fault.message}")
    | .error failure => throw (.failure failure)

def routingOptions (files : Files) (switches : RoutingSwitches) : Step RoutingOptions := do
  return ⟨switches.out, switches.reply, switches.next, switches.targets,
    ← readRouting files switches.file⟩

/-- The text of the file with answers, under its path. -/
def readAnswersFile (files : Files) : Option String → Step (Option (String × String))
  | none => pure none
  | some name => do
    let path := Path.ofText name
    return some (path.text, ← Step.lift (files.readText path))

/-- The catalog that is named in the command, or else in the settings. -/
def resolveCatalog (files : Files) (invocation : Invocation) (settings : Settings) :
    Step (Option Catalog) := do
  let paths :=
    if invocation.catalogPaths.isEmpty then settings.catalogPaths else invocation.catalogPaths
  if paths.isEmpty then
    Step.warn [.catalogMissing]
    return none
  else
    let (catalog, skipped) ← Step.lift (Catalog.load files (paths.map .ofText))
    Step.warn (skipped.map .manifestSkipped)
    return some catalog

/-- What a run prints that writes an edited graph, or the graph itself. Data are printed in ASCII,
which no standard output refuses. -/
def finish (invocation : Invocation) (settings : Settings) (graph : Graph)
    (version summary : String) : Step String := do
  let path := invocation.flow
  let head : Members :=
    [(.str "status", .str "ok"), (.str "flow", .str path.text), (.str "summary", .str summary)]
  if invocation.write then
    let version ← Step.change (.saveFlow path graph (some version) settings.keepBackup)
    if invocation.json then return printed (head ++ [(.str "etag", .str version)])
    else Step.say s!"{summary}; wrote {path.text}\n"
  else
    let text ← Step.lift graph.dump
    if invocation.json then return printed (head ++ [(.str "document", .str text)])
    else Step.say text

/-- What to insert, as it is asked for. -/
def describe (files : Files) (component : String) (payload packAlias operation : Option String)
    (routing : RoutingSwitches) : Step (Members × Bool) := do
  let (routes, needsPlaceholder) ← Step.lift (← routingOptions files routing).insertion
  let payload ← Step.lift ((payload.map readPayload).getD (.ok (.map [])))
  let members ← Step.lift (describeStep component payload packAlias operation routes)
  return (members, needsPlaceholder)

def plan (graph : Graph) (request : Request) (catalog : Option Catalog) : Step Plan :=
  match Plan.make graph request catalog with
  | .ok plan => pure plan
  | .error (.findings findings) => throw (.findings findings "add-step rejected")
  | .error (.failure failure) => throw (.failure failure)

/-- What is printed of a graph without findings. -/
def validLine (graph : Graph) : String :=
  s!"Flow '{graph.header.id.text}' is valid ({graph.nodes.length} nodes).\n"

/-- What is printed of a graph that has been validated. -/
def conclude (invocation : Invocation) (graph : Graph) : List Diagnostic → Step String
  | [] =>
    if invocation.json then
      return printed (report [] ++ [(.str "flow", .str invocation.flow.text)])
    else Step.say (validLine graph)
  | findings => throw (.findings findings s!"flow '{graph.header.id.text}' is invalid")

/-- What a task prints that is done. -/
def carryOut (files : Files) (settings : Settings) (invocation : Invocation) : Step String := do
  let (graph, version) ← readFlow files invocation.flow
  match invocation.task with
  | .addStep component payload packAlias operation after hint allowCycles routing => do
    let catalog ← resolveCatalog files invocation settings
    let (members, needsPlaceholder) ← describe files component payload packAlias operation routing
    let request : Request :=
      { after := after.map .str
        hint
        node := .map members
        allowCycles := allowCycles || settings.allowCycles
        requirePlaceholder := needsPlaceholder && settings.requirePlaceholder }
    let plan ← plan graph request catalog
    let updated ← Step.lift (graph.applyChecked plan catalog)
    finish invocation settings updated version s!"added step '{plan.node.id.text}'"
  | .updateStep step operation answers answersFile routing => do
    let catalog ← resolveCatalog files invocation settings
    let answers ← Step.lift (readAnswers (← readAnswersFile files answersFile) answers)
    let routes ← Step.lift (← routingOptions files routing).override
    let overrides : Overrides := ⟨operation, answers.map .map, routes.map .routes⟩
    if overrides.isEmpty then Step.warn [.noOverrides step]
    let updated ← Step.lift (graph.updateChecked (.str step) overrides catalog)
    finish invocation settings updated version s!"updated step '{step}'"
  | .deleteStep step strategy fanIn => do
    let updated ← Step.lift (graph.delete (.str step) (strategy.getD settings.strategy)
      (fanIn.getD settings.fanIn))
    finish invocation settings updated version s!"deleted step '{step}'"
  | .validate => do
    let catalog ← resolveCatalog files invocation settings
    conclude invocation graph (← Step.lift (graph.validate catalog))

/-- Output and errors of a run that reports findings. -/
def findingsOutput (invocation : Invocation) (findings : List Diagnostic) (message : String) :
    String × String :=
  if invocation.json then
    (printed (report findings ++
      [(.str "flow", .str invocation.flow.text), (.str "message", .str message)]), "")
  else
    ("", s!"{message}:\n" ++ String.join (findings.map fun finding => s!"  {finding.line}\n"))

/-- Output and errors of a run that reports one error. -/
def errorOutput (invocation : Invocation) (message : String) : String × String :=
  if invocation.json then
    (printed [(.str "status", .str "error"), (.str "flow", .str invocation.flow.text),
      (.str "message", .str message)], "")
  else ("", s!"ERROR: {message}\n")

/-- The status of a failure that a run reports; the others end it without a report. -/
def failureStatus? : Failure → Option Status
  | .flow _ => some .refused
  | .invalid _ => some .refused
  | .data (.value fault) => if fault.isRefusal then some .refused else none
  | .data _ => none
  | .encoding _ => some .refused
  | .misshapen _ => none
  | .file (.unnameable _) => some .refused
  | .file (.noName _) => some .refused
  | .file _ => some .fatal

/-- How a run ends that has met trouble. -/
def settle (invocation : Invocation) : Trouble → Except Failure (Status × String × String)
  | .unreadable message => .ok (.fatal, errorOutput invocation message)
  | .findings findings message => .ok (.refused, findingsOutput invocation findings message)
  | .failure (.flow (.diagnostics findings _)) =>
    .ok (.refused, findingsOutput invocation findings "edited flow failed validation")
  | .failure failure =>
    match failureStatus? failure with
    | some status => .ok (status, errorOutput invocation failure.text)
    | none => .error failure

/-- Runs a task. -/
def Invocation.run (invocation : Invocation) (environment : Environment) (files : Files) :
    Except Failure Outcome := do
  let settings ← Settings.resolve environment Installation.configuration
  let start : Traces := ⟨settings.warnings, files⟩
  let (result, traces) := (carryOut files settings.value invocation).run start
  match result with
  | .ok output => return ⟨.success, output, "", traces⟩
  | .error trouble =>
    let (status, output, errors) ← settle invocation trouble
    return ⟨status, output, errors, traces⟩

/-- The files that a task looks at, besides those inside the directories among them. -/
def Invocation.mentions (invocation : Invocation) (settings : Settings) : List Path :=
  let ofTask := match invocation.task with
    | .addStep _ _ _ _ _ _ _ routing => routing.file.toList
    | .updateStep _ _ _ answersFile routing => answersFile.toList ++ routing.file.toList
    | .deleteStep .. => []
    | .validate => []
  let flow := invocation.flow
  let backup := flow.name?.map fun name => flow.parent.child (name ++ backupSuffix)
  flow :: backup.toList ++ (ofTask ++ invocation.catalogPaths ++ settings.catalogPaths).map .ofText

def programName : String := "flowgraph-edit"

def versionText : String := programName ++ " 0.3.0\n"

def usageText : String :=
  s!"usage: {programName} [--help] [--version] TASK FLOW [OPTION ...]\n" ++
    "tasks: add-step, update-step, delete-step, validate\n"

/-- How a command line ends that asks for no task. -/
def Stop.outcome (stop : Stop) (files : Files) : Outcome :=
  match stop with
  | misuse => ⟨.fatal, "", usageText, ⟨[], files⟩⟩
  | help => ⟨.success, usageText, "", ⟨[], files⟩⟩
  | version => ⟨.success, versionText, "", ⟨[], files⟩⟩

/-- Carries out a command line. -/
def run (arguments : List String) (environment : Environment) (files : Files) :
    Except Failure Outcome :=
  match Invocation.ofArguments arguments with
  | .ok invocation => invocation.run environment files
  | .error stop => .ok (stop.outcome files)

end StepFlow.Command
