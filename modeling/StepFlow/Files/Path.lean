import StepFlow.Text.Split
import StepFlow.Text.Utf8

/-! Paths as lists of names. Empty names and points for the directory itself do not count;
two points for the directory above are kept, since what they mean depends on the files. -/
namespace StepFlow

/-- The name that an absolute path starts with. -/
def rootName : String := "/"

/-- The directory above. -/
def aboveName : String := ".."

structure Path where
  names : List String
  deriving DecidableEq

namespace Path

/-- The directory in which a command runs. -/
def here : Path := ⟨[]⟩

/-- The name that the slashes in front of a text stand for; just two are one of their
own. -/
def rootOf : List Char → List String
  | '/' :: '/' :: '/' :: _ => [rootName]
  | '/' :: '/' :: _ => ["//"]
  | '/' :: _ => [rootName]
  | _ => []

def ofText (text : String) : Path :=
  ⟨rootOf text.toList ++ (splitText '/' text).filter fun name => name ≠ "" && name ≠ "."⟩

def isRoot (name : String) : Bool :=
  name = rootName || name = "//"

/-- The path as messages and labels show it. -/
def text (path : Path) : String :=
  match path.names with
  | [] => "."
  | name :: names =>
    if isRoot name then name ++ "/".intercalate names else "/".intercalate path.names

def child (path : Path) (name : String) : Path :=
  ⟨path.names ++ [name]⟩

/-- The last name; the working directory and the root have none. -/
def name? (path : Path) : Option String :=
  path.names.getLast?.filter fun name => !isRoot name

/-- The path without its last name, if it has one. -/
def parent (path : Path) : Path :=
  if path.name?.isSome then ⟨path.names.dropLast⟩ else path

/-- Cuts a name in front of its last point, if there is something on both sides of it. -/
def cutName (name : String) : String × String :=
  let reversed := name.toList.reverse
  let ending := reversed.takeWhile (· ≠ '.')
  let front := reversed.drop (ending.length + 1)
  if ending.isEmpty || front.isEmpty then (name, "")
  else (String.ofList front.reverse, String.ofList ('.' :: ending.reverse))

/-- The end of the last name from its last point on. -/
def suffix (path : Path) : String :=
  (cutName (path.name?.getD "")).2

/-- The last name without its suffix. -/
def stem (path : Path) : String :=
  (cutName (path.name?.getD "")).1

/-- How many bytes characters take in a path. Half a pair can only be one that holds a byte. -/
def bytesOf : List Char → Nat
  | [] => 0
  | c :: cs => (if Surrogate.isHalf c then 1 else c.utf8Size) + bytesOf cs

def byteSize (text : String) : Nat :=
  bytesOf text.toList

/-- Bytes that are no character are held by the halves of these code points. -/
def holdsByte (n : Nat) : Bool :=
  0xDC80 ≤ n && n ≤ 0xDCFF

/-- What is said of a path that no file can have. -/
def refusal? (path : Path) : Option String :=
  match Utf8.refusal? holdsByte path.text with
  | some report => some report
  | none => if '\x00' ∈ path.text.toList then some "embedded null byte" else none

end Path

end StepFlow
