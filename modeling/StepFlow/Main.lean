import StepFlow.Command.Run

/-! The program: looks at the files that a command line names, carries it out on them, and
writes back what has changed. -/
namespace StepFlow

open Command

local instance installed : Installation := .usual

local instance running : Execution := .usual

/-- The variables that settings are taken from. -/
def readEnvironment : IO Environment := do
  let keys := ["allow_cycles", "require_placeholder", "backup_on_write", "delete_strategy",
    "multi_predecessor", "catalog_paths"]
  let found ← keys.filterMapM fun key => do
    let name := Settings.variableName key
    return (← IO.getEnv name).map fun value => (name, value)
  return found

/-- Adds what stands under a path, if it can be read. -/
def observe (files : Files) (path : Path) : IO Files := do
  let place := path.names.foldl Files.step []
  try
    let content ← IO.FS.readBinFile path.text
    return files.place place (.file content)
  catch _ => return files

/-- Adds what stands under a path, and what is in it if it is a directory. -/
def observeAll (files : Files) (path : Path) : IO Files := do
  let names ← try
      let entries ← (← IO.FS.realPath path.text).readDir
      pure (some (entries.toList.map fun entry => entry.fileName))
    catch _ => pure none
  match names with
  | none => observe files path
  | some names =>
    let files := files.place (path.names.foldl Files.step []) .directory
    names.foldlM (fun files name => observe files (path.child name)) files

/-- Writes a file by way of a temporary one, so that nobody sees half of it. -/
def store (path : Path) (content : ByteArray) : IO Unit := do
  let temporary := path.parent.child ((path.name?.getD "") ++ ".tmp")
  IO.FS.createDirAll path.parent.text
  IO.FS.writeBinFile temporary.text content
  IO.FS.rename temporary.text path.text

/-- Writes the files that are new or changed. -/
def storeChanges (before after : Files) : IO Unit :=
  after.contents.forM fun (place, content) =>
    match before.find? place with
    | some (.file held) =>
      if held.data = content.data then pure () else store ⟨place⟩ content
    | _ => store ⟨place⟩ content

/-- The files as far as a command line is concerned with them. -/
def snapshot (arguments : List String) (environment : Environment) : IO Files := do
  match Invocation.ofArguments arguments, Settings.resolve environment Installation.configuration with
  | .ok invocation, .ok settings =>
    (invocation.mentions settings.value).foldlM observeAll .empty
  | _, _ => return .empty

/-- Carries out a command line here. -/
def program (arguments : List String) : IO UInt32 := do
  let environment ← readEnvironment
  let files ← snapshot arguments environment
  match run arguments environment files with
  | .ok outcome =>
    storeChanges files outcome.traces.files
    outcome.traces.warnings.forM fun warning => IO.eprintln warning.message
    IO.eprint outcome.errors
    IO.print outcome.output
    return outcome.status.code.toUInt32
  | .error failure =>
    IO.eprintln s!"{programName}: {failure.text}"
    return 1

end StepFlow

def main (arguments : List String) : IO UInt32 :=
  StepFlow.program arguments
