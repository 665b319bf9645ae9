import StepFlow.Proofs.Catalog.Loading
import StepFlow.Proofs.Command.Steps
import StepFlow.Proofs.Files.Versions

/-! What an edit writes, and what validation makes of it. Main statement: a flow that an edit has
written after checking it is found valid, with the same catalog and settings, as long as no manifest
of the catalog is the flow itself or its copy. Both are runs of one installation, but each is an
execution of its own: only standard output of the later one can refuse to be told so. -/
namespace StepFlow

open Outcome Files

section

variable [Installation]

namespace Files

variable {files after : Files} {path : Path} {graph next : Graph} {version saved : String} {keepBackup : Bool}

/-- Saving what was read before writes the file and its copy only. -/
theorem rewrites_of_saveFlow [Execution] (read : files.readFlow path = .ok (graph, version))
    (saves : (Change.saveFlow path next (some version) keepBackup).outcome files = (.ok saved, after)) :
    Rewrites (after.IsFileOrCopy path) files after := by
  obtain ⟨content, held, -⟩ := version?_eq_ok_some_iff.mp (version?_of_readFlow read)
  exact Change.rewrites_of_replace held (Change.saveFlow_eq_ok saves).2.2.1

end Files

namespace Command

variable {files after : Files} {paths : List Path} {catalog : Option Catalog} {changed : Place → Prop}

theorem Finds.of_rewrites (finds : Finds files paths catalog) (rewrites : Rewrites changed files after)
    (avoids : ∀ path ∈ paths, Manifest.Avoids after changed path) : Finds after paths catalog := by
  rcases finds with ⟨none, isNone⟩ | ⟨some, found, skipped, loaded, isFound⟩
  · exact .inl ⟨none, isNone⟩
  · obtain ⟨others, loadedAfter⟩ := Catalog.load_of_rewrites rewrites avoids loaded
    exact .inr ⟨some, found, others, loadedAfter, isFound⟩

variable {arguments checking : List String} {environment : Environment} {edit check : Invocation}
  {outcome : Outcome} {settled : Settings.Resolved Settings}

/-- What an edit has checked and written is read again as a graph without findings, and the same catalog
is found beside it. -/
theorem exists_valid_of_edit [Execution] (isChecked : edit.task.IsChecked) (writes : edit.write = true)
    (done : edit.run environment files = .ok outcome) (succeeded : outcome.status = .success)
    (resolved : Settings.resolve environment Installation.configuration = .ok settled)
    (apart : ∀ path ∈ edit.manifestPaths settled.value,
      Manifest.Avoids outcome.traces.files (outcome.traces.files.IsFileOrCopy edit.flow) path) :
    ∃ graph version catalog, outcome.traces.files.readFlow edit.flow = .ok (graph, version) ∧
      Finds outcome.traces.files (edit.manifestPaths settled.value) catalog ∧
      graph.validate catalog = .ok [] := by
  obtain ⟨settings, output, resolvedToo, carried⟩ := exists_of_run_eq_ok done succeeded
  obtain rfl := Except.ok.inj (resolved.symm.trans resolvedToo)
  obtain ⟨graph, version, catalog, candidate, location, updated, saved, read, finds, passed, saves⟩ :=
    carryOut_eq_ok isChecked writes carried
  obtain ⟨rfl, reread, confirmed, valid⟩ := Graph.checked_eq_ok passed
  -- what is read again is the graph that was confirmed, and that is the one that was checked
  exact ⟨reread, saved, catalog, Change.readFlow_of_saveFlow saves confirmed,
    finds.of_rewrites (rewrites_of_saveFlow read saves) apart, valid⟩

end Command

end

namespace Command

attribute [local instance] Installation.usual Execution.usual

/-- A flow beside a directory with one manifest. -/
def workshop : Files :=
  ⟨[(["flow.ygtc"], .file "id: hi\ntype: messaging\nnodes:\n  say:\n    template: Hi\n".toUTF8),
    (["components"], .directory),
    (["components", "ask.manifest.json"], .file "\x7b\"id\": \"ask\"\x7d".toUTF8)]⟩

def flowPath : Path := ⟨["flow.ygtc"]⟩

def manifestPath : Path := ⟨["components", "ask.manifest.json"]⟩

def editArguments : List String :=
  ["update-step", "flow.ygtc", "--step", "say", "--routing-reply", "--write", "--catalog", "components"]

def checkArguments : List String :=
  ["validate", "flow.ygtc", "--catalog", "components"]

def workshopEdit : Invocation :=
  ⟨flowPath, ["components"], true, false, .updateStep "say" none none none ⟨false, true, none, none, none⟩⟩

def workshopCheck : Invocation :=
  ⟨flowPath, ["components"], false, false, .validate⟩

theorem ofArguments_workshop : Invocation.ofArguments editArguments = .ok workshopEdit ∧
    Invocation.ofArguments checkArguments = .ok workshopCheck := by
  decide +kernel

/-- An execution that lists the elements of a set the other way round. -/
@[reducible] def mirrored : Execution :=
  { Execution.usual with
    listing := List.reverse
    listing_perm := List.reverse_perm }

/-- Where a path leads, if there is no link. -/
def standing? (files : Files) (path : Path) : Option Place :=
  (files.locate path).toOption.filter fun place => files.follow place = place

theorem standing?_eq_some {path : Path} {place : Place} (stands : standing? files path = some place) :
    files.locate path = .ok place ∧ files.follow place = place := by
  obtain ⟨located, follows⟩ := Option.filter_eq_some_iff.mp stands
  cases found : files.locate path with
  | error fault =>
    rw [found] at located
    cases located
  | ok named =>
    rw [found] at located
    exact ⟨congrArg _ (Option.some.inj located), of_decide_eq_true follows⟩

/-- What a run comes to, and what is found then. -/
structure Sight where
  status : Status
  manifests : Except FileFault (List Path)
  /-- Where the manifest, the flow and its copy stand. -/
  places : List (Option Place)
  /-- What standard output says to the line about a valid flow. -/
  refusal? : Option (Option String)
  deriving DecidableEq

def sight (outcome : Outcome) : Sight :=
  let files := outcome.traces.files
  { status := outcome.status
    manifests := Manifest.expand files (.ofText "components")
    places := [manifestPath, flowPath, files.copyPath flowPath].map (standing? files)
    refusal? := (files.readFlow flowPath).toOption.map fun found => mirrored.refusal? (validLine found.1) }

theorem sight_workshop : (run editArguments [] workshop).map sight =
    .ok ⟨.success, .ok [manifestPath],
      [some manifestPath.names, some flowPath.names, some ["flow.ygtc.bak"]], some none⟩ := by
  decide +kernel

end Command

end StepFlow
