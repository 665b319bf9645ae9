import StepFlow.Digest
import StepFlow.Document.Text
import StepFlow.Files.Tree

/-! Flow documents in files. A version of a file is known by the digest of its bytes, and
a graph is saved only over the version that its author has seen. -/
namespace StepFlow

/-- What the copy of a replaced file is named by. -/
def backupSuffix : String := ".bak"

variable [Installation]

namespace Files

/-- The version of a file, if it is there. -/
def version? (files : Files) (path : Path) : Except FileFault (Option String) := do
  match ← files.look? path with
  | none => return none
  | some _ => return some (Digest.text (← files.read path))

/-- A document that should be there. -/
def requireFlow (files : Files) (path : Path) : Except Failure Unit := do
  match ← (files.look? path).mapError .file with
  | none => throw (.file (.flowMissing path.text))
  | some _ => return

/-- Documents keep rules that are fixed here; rules in a file have to be there at least. -/
def requireRules (files : Files) (path : Path) : Except Failure Unit := do
  match ← (files.look? path).mapError .file with
  | none => throw (.file (.schemaMissing path.text))
  | some _ => return

/-- The graph of a text that keeps the rules. -/
def loadText (files : Files) (text label : String) (rules : Option Path) :
    Except Failure Graph := do
  let document ← parseDocument text label
  if let some path := rules then files.requireRules path
  Graph.ofChecked? document label

/-- The graph of a document, whose lines may end in any way. -/
def loadFlow (files : Files) (path : Path) : Except Failure Graph := do
  files.requireFlow path
  Graph.load (← files.readText path) path.text

/-- The graph of a document with its version. -/
def readFlow (files : Files) (path : Path) : Except Failure (Graph × String) := do
  files.requireFlow path
  let content ← (files.read path).mapError .file
  let text ← textOf content
  return (← Graph.load text path.text, Digest.text content)

end Files

namespace Change

/-- Where the copy of a file goes: next to it, or into a directory of that name. -/
def backupPath (files : Files) (path : Path) (name : String) : Path :=
  let backup := path.parent.child (name ++ backupSuffix)
  if files.holdsDirectory backup then backup.child name else backup

/-- Copies a file that is there. -/
def backUp (path : Path) : Change Unit := do
  match ← ask (·.look? path), path.name? with
  | none, _ => return
  | some _, none => throw (.file (.noName path.text))
  | some _, some name =>
    let files ← get
    let backup := backupPath files path name
    if files.isSame path backup then
      let inside := backup.names.length ≠ path.names.length
      throw (.file (.sameFile path.text backup.text inside))
    else
      let content ← ask (·.read path)
      act (·.write backup content)

variable [Execution]

/-- A name for a new file next to another. -/
def temporaryName (path : Path) (attempt : Nat) : String :=
  path.stem ++ "_" ++ Execution.letters attempt ++ ".tmp"

def temporaryPath (path : Path) (attempt : Nat) : Path :=
  path.parent.child (temporaryName path attempt)

/-- How many names are tried for a new file. -/
def attempts : Nat := 10000

/-- Makes an empty file next to a path, with the first name that is not taken. -/
def makeTemporary (path : Path) (attempt : Nat) : Nat → Change Path
  | 0 => throw (.file .noFreeName)
  | tries + 1 => do
    let temporary := temporaryPath path attempt
    match (← get).create temporary with
    | .ok files =>
      set files
      return temporary
    | .error (.taken _) => makeTemporary path (attempt + 1) tries
    | .error fault => throw (.file fault)

/-- Removes a file, if it is there. -/
def discard (path : Path) : Change Unit := do
  if (← ask (·.look? path)).isSome then act (·.unlink path)

/-- Puts a content in the place of what a path held, all at once. It is written to another file,
which takes that place when it is complete, or is removed. -/
def put (path : Path) (content : ByteArray) : Change Unit := do
  let temporary ← makeTemporary path 0 attempts
  try
    act (·.write temporary content)
    act (·.move temporary path)
  catch failure =>
    discard temporary
    throw failure

/-- Writes a file, with the directories that lead to it and a copy of what it held. -/
def replace (path : Path) (content : ByteArray) (keepBackup : Bool) : Change Unit := do
  let names := path.parent.names
  makeDirectories names names.length
  if keepBackup then backUp path
  put path content

/-- Refuses a file that has been changed since a version was read. One that is gone may be
written again. -/
def requireVersion (path : Path) (expected : Option String) : Change Unit := do
  match expected with
  | none => return
  | some expected =>
    match ← ask (·.version? path) with
    | none => return
    | some actual =>
      if actual = expected then return
      else throw (.flow (.changed path.text expected actual))

/-- Saves a graph that can be written and read again; answers with the new version. -/
def saveFlow (path : Path) (graph : Graph) (expected : Option String) (keepBackup : Bool) :
    Change String := do
  let _ ← ofResult graph.confirm
  requireVersion path expected
  let content := graph.render.toUTF8
  replace path content keepBackup
  return Digest.text content

end Change

end StepFlow
