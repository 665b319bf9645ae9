import StepFlow.Failure
import StepFlow.Files.Path

/-! Files, directories and links, and what operations on paths do to them. A place is reached
by walking from name to name; only directories can be walked through, and a link is followed
at the end of a path. Main statement: what was put at a place is found there, and all else stays
as it was. -/
namespace StepFlow

/-- The names of directories that lead to an entry, and its own. -/
abbrev Place := List String

-- one instance for contents, whichever others are imported
local instance (priority := high) decideContent : DecidableEq ByteArray :=
  ByteArray.instDecidableEq

/-- What stands at a place. A link stands for the file at another place, where there is no link
again; no link stands for a directory. If a file has several names, they are links to a place that
no path leads to. -/
inductive Entry where
  | file (content : ByteArray)
  | directory
  | link (target : Place)
  deriving DecidableEq

def Entry.isDirectory : Entry → Bool
  | directory => true
  | _ => false

structure Files where
  entries : List (Place × Entry)

namespace Files

def empty : Files := ⟨[]⟩

/-- The working directory, those above it, and the root are always there. -/
def isStanding (place : Place) : Bool :=
  place.all fun name => name = aboveName || Path.isRoot name

def find? (files : Files) (place : Place) : Option Entry :=
  if isStanding place then some .directory
  else (files.entries.find? (·.1 = place)).map Prod.snd

def setEntry (place : Place) (entry : Entry) : List (Place × Entry) → List (Place × Entry)
  | [] => [(place, entry)]
  | other :: entries =>
    if other.1 = place then (place, entry) :: entries else other :: setEntry place entry entries

def set (files : Files) (place : Place) (entry : Entry) : Files :=
  ⟨setEntry place entry files.entries⟩

theorem find?_set (files : Files) (place other : Place) (entry : Entry) :
    (files.set place entry).find? other =
      if isStanding other then some .directory
      else if place = other then some entry else files.find? other := by
  suffices ∀ entries : List (Place × Entry),
      (setEntry place entry entries).find? (·.1 = other) =
        if place = other then some (place, entry) else entries.find? (·.1 = other) by
    simp only [find?, set, this]
    cases isStanding other <;> by_cases same : place = other <;> simp [same]
  intro entries
  induction entries with
  | nil => by_cases same : place = other <;> simp [setEntry, same]
  | cons first entries ih =>
    by_cases known : first.1 = place
    · rw [setEntry, if_pos known]
      by_cases same : place = other
      · simp [same]
      · simp [same, known]
    · rw [setEntry, if_neg known]
      by_cases here : first.1 = other
      · have differ : place ≠ other := fun h => known (here.trans h.symm)
        simp [here, differ]
      · simp [here, ih]

def remove (files : Files) (place : Place) : Files :=
  ⟨files.entries.filter fun entry => entry.1 ≠ place⟩

/-- The place that is meant by a place, which is another one for a link. -/
def follow (files : Files) (place : Place) : Place :=
  match files.find? place with
  | some (.link target) => target
  | _ => place

/-- The longest name that a directory can hold, in bytes. -/
def nameLimit : Nat := 255

/-- The longest path that can be walked, in bytes. -/
def pathLimit : Nat := 4095

/-- One step of a walk: up, to the root, or down. -/
def step (place : Place) (name : String) : Place :=
  if Path.isRoot name then [rootName]
  else if name = aboveName then
    match place.getLast? with
    | some last =>
      if last = aboveName then place ++ [name]
      else if Path.isRoot last then place
      else place.dropLast
    | none => [name]
  else place ++ [name]

/-- Walks on from a place; everything but the end has to be a directory. -/
def walk (files : Files) (shown : String) : Place → List String → Except FileFault Place
  | place, [] => .ok place
  | place, name :: names =>
    match files.find? place with
    | none => .error (.notFound shown)
    | some (.file _) => .error (.notDirectory shown)
    | some (.link _) => .error (.notDirectory shown)
    | some .directory =>
      if Path.byteSize name > nameLimit then .error (.nameTooLong shown)
      else walk files shown (step place name) names

/-- The place of a path, whether or not there is something. -/
def locate (files : Files) (path : Path) : Except FileFault Place :=
  match path.refusal? with
  | some report => .error (.unnameable report)
  | none =>
    if pathLimit < Path.byteSize path.text then .error (.nameTooLong path.text)
    else files.walk path.text [] path.names

/-- The entry under a path, or the one that a link there stands for. -/
def look (files : Files) (path : Path) : Except FileFault Entry := do
  match files.find? (files.follow (← files.locate path)) with
  | some entry => return entry
  | none => throw (.notFound path.text)

/-- Faults that only say that there is nothing. -/
def meansAbsent : FileFault → Bool
  | .notFound _ => true
  | .notDirectory _ => true
  | .unnameable _ => true
  | _ => false

/-- The entry under a path, if there is one. -/
def look? (files : Files) (path : Path) : Except FileFault (Option Entry) :=
  match files.look path with
  | .ok entry => .ok (some entry)
  | .error fault => if meansAbsent fault then .ok none else .error fault

def isDirectory (files : Files) (path : Path) : Except FileFault Bool :=
  return (← files.look? path).any Entry.isDirectory

/-- Whether there is a directory under a path; there is none where none can be. -/
def holdsDirectory (files : Files) (path : Path) : Bool :=
  match files.look path with
  | .ok entry => entry.isDirectory
  | .error _ => false

/-- The content of a file. -/
def read (files : Files) (path : Path) : Except FileFault ByteArray := do
  match ← files.look path with
  | .file content => return content
  | .directory => throw (.isDirectory path.text)
  | .link _ => throw (.notFound path.text)

/-- Whether two paths lead to one file. -/
def isSame (files : Files) (path other : Path) : Bool :=
  match files.locate path, files.locate other with
  | .ok place, .ok place' =>
    files.follow place = files.follow place' && (files.find? (files.follow place)).isSome
  | _, _ => false

/-- Line ends of all systems as line feeds. -/
def unifyLineEnds : List Char → List Char
  | [] => []
  | '\x0d' :: '\n' :: cs => '\n' :: unifyLineEnds cs
  | c :: cs => (if c = '\x0d' then '\n' else c) :: unifyLineEnds cs

/-- The text that bytes encode, if its characters can all be held. -/
def textOf (content : ByteArray) : Except Failure String := do
  let text ← (Utf8.decode content).mapError .encoding
  if Surrogate.isWhole text then return text else throw (.data .outside)

/-- The content of a text file, line by line. -/
def readText (files : Files) (path : Path) : Except Failure String := do
  let content ← (files.read path).mapError .file
  let text ← textOf content
  return String.ofList (unifyLineEnds text.toList)

/-- The names in a directory, in alphabetical order. -/
def namesIn (files : Files) (place : Place) : List String :=
  let names := files.entries.filterMap fun entry =>
    if entry.1.dropLast = place then entry.1.getLast? else none
  names.mergeSort fun a b => !Surrogate.precedes b a

/-- Makes one directory. -/
def makeDirectory (files : Files) (path : Path) : Except FileFault Files := do
  let place ← files.locate path
  match files.find? place with
  | some _ => throw (.taken path.text)
  | none => return files.set place .directory

/-- Sets the content of a file, which need not be there yet if its directory is. -/
def write (files : Files) (path : Path) (content : ByteArray) : Except FileFault Files := do
  let place := files.follow (← files.locate path)
  match files.find? place, files.find? place.dropLast with
  | some .directory, _ => throw (.isDirectory path.text)
  | some (.link _), _ => throw (.notFound path.text)
  | some (.file _), _ => return files.set place (.file content)
  | none, some .directory =>
    if nameLimit < Path.byteSize (place.getLast?.getD "") then throw (.nameTooLong path.text)
    else return files.set place (.file content)
  | none, _ => throw (.notFound path.text)

/-- Makes an empty file where there is nothing. -/
def create (files : Files) (path : Path) : Except FileFault Files := do
  let place ← files.locate path
  match files.find? place, files.find? place.dropLast with
  | some _, _ => throw (.taken path.text)
  | none, some .directory => return files.set place (.file .empty)
  | none, _ => throw (.notFound path.text)

/-- Removes the name of a file. -/
def unlink (files : Files) (path : Path) : Except FileFault Files := do
  let place ← files.locate path
  match files.find? place with
  | some .directory => throw (.isDirectory path.text)
  | some _ => return files.remove place
  | none => throw (.notFound path.text)

/-- Whether a path ends in a name that a file can have. -/
def canBeFile (path : Path) : Bool :=
  path.name?.any (· ≠ aboveName)

/-- Gives a file another name, which it takes from whatever had it. -/
def move (files : Files) (path target : Path) : Except FileFault Files := do
  let source ← files.locate path
  let place ← files.locate target
  if !canBeFile target then throw (.busy target.text)
  match files.find? source, files.find? place with
  | none, _ => throw (.notFound path.text)
  | some .directory, _ => throw (.notDirectory target.text)
  | some _, some .directory => throw (.isDirectory target.text)
  | some entry, _ => return (files.remove source).set place entry

/-- The files with their places, in the order of their places. -/
def contents (files : Files) : List (Place × ByteArray) :=
  let found := files.entries.filterMap fun entry =>
    match entry.2 with
    | .file content => some (entry.1, content)
    | _ => none
  found.mergeSort fun a b => !decide (b.1 < a.1)

/-- Puts a file at a place, with the directories that lead there. -/
def place (files : Files) (place : Place) (entry : Entry) : Files :=
  let leading := (List.range place.length).map place.take
  let withDirectory (files : Files) (place : Place) : Files :=
    if (files.find? place).isSome then files else files.set place .directory
  (leading.foldl withDirectory files).set place entry

end Files

/-- Steps that change files. What has been changed when a step fails stays changed. -/
abbrev Change := ExceptT Failure (StateM Files)

namespace Change

def ofResult {α : Type} (result : Except Failure α) : Change α :=
  match result with
  | .ok value => pure value
  | .error failure => throw failure

/-- What can be seen in the files. -/
def ask {α : Type} (look : Files → Except FileFault α) : Change α := do
  ofResult ((look (← get)).mapError .file)

/-- Changes the files if that is possible. -/
def act (step : Files → Except FileFault Files) : Change Unit := do
  set (← ask step)

/-- A directory that cannot be made may be there. -/
def allowDirectory (path : Path) (fault : FileFault) : Change Unit := do
  if ← ask fun files => files.isDirectory path then return else throw (.file fault)

/-- Makes the directory of the first so many names, and those that lead to it, unless it
is there. -/
def makeDirectories (names : List String) : Nat → Change Unit
  | 0 => return
  | depth + 1 => do
    let path : Path := ⟨names.take (depth + 1)⟩
    match (← get).makeDirectory path with
    | .ok files => set files
    | .error (.notFound _) =>
      makeDirectories names depth
      match (← get).makeDirectory path with
      | .ok files => set files
      | .error (.notFound shown) => throw (.file (.notFound shown))
      | .error fault => allowDirectory path fault
    | .error fault => allowDirectory path fault

end Change

end StepFlow
