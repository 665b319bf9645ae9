import StepFlow.Fault
import StepFlow.Text.Utf8
import StepFlow.Yaml.Fault

/-! Everything that can end an operation. Besides the faults of documents and edits these
are values that do not denote what they should, documents of a shape that no check has
seen, and files that cannot be read. -/
namespace StepFlow

/-- A value that is refused for what it says. -/
inductive InvalidValue where
  /-- Text that is no data; the reason is the reader's own. -/
  | notData (label reason : String)
  | notMapping (label : String)
  | strategy (name : String)
  | policy (name : String)
  /-- An item that should be a key with its value, but has another length. -/
  | pairLength (place length : Nat)
  /-- An integer that would have to be shown has too many digits. -/
  | longInteger
  /-- Standard output does not take what is printed. -/
  | unprintable (report : String)
  deriving DecidableEq

/-- A value of a shape that only an unchecked document has. -/
inductive Misshape where
  /-- Members are asked of something without members. -/
  | noMapping
  | noMember (key : String)
  /-- Items are asked of something without items. -/
  | noItems
  /-- Something that is no scalar is used as a key. -/
  | noKey
  /-- A component key that is no text. -/
  | keyNotText
  deriving DecidableEq

inductive FileFault where
  /-- A flow document that should be read is not there. -/
  | flowMissing (path : String)
  | schemaMissing (path : String)
  | notFound (path : String)
  | isDirectory (path : String)
  | notDirectory (path : String)
  /-- A directory that should be made has the name of something else. -/
  | taken (path : String)
  | nameTooLong (path : String)
  /-- A file cannot take the place of what a path without a name stands for. -/
  | busy (path : String)
  /-- A path that no file can have. -/
  | unnameable (report : String)
  /-- A path without a name at its end, where one is needed. -/
  | noName (path : String)
  /-- All names that were tried for a new file are taken. -/
  | noFreeName
  /-- A file cannot be copied onto itself, be it next to it or in a directory. -/
  | sameFile (path copy : String) (inside : Bool)
  deriving DecidableEq

inductive Failure where
  | flow (fault : FlowFault)
  | invalid (value : InvalidValue)
  /-- A text that is no data, where that is not the document's fault. -/
  | data (failure : Yaml.Failure)
  | encoding (fault : Utf8.Fault)
  | misshapen (shape : Misshape)
  | file (fault : FileFault)
  deriving DecidableEq

def InvalidValue.message : InvalidValue → String
  | notData label reason => s!"{label} is not valid JSON/YAML: {reason}"
  | notMapping label => s!"{label} must contain a JSON/YAML object"
  | strategy name => s!"{Quoted.text name} is not a valid DeleteStrategy"
  | policy name => s!"{Quoted.text name} is not a valid MultiPredecessorPolicy"
  | pairLength place length =>
    s!"dictionary update sequence element #{place} has length {length}; 2 is required"
  | longInteger => s!"{digitLimitText}; {digitLimitAdvice}"
  | unprintable report => report

def FileFault.message : FileFault → String
  | flowMissing path => s!"Flow document not found: {path}"
  | schemaMissing path => s!"Flow schema not found: {path}"
  | notFound path => s!"[Errno 2] No such file or directory: {Quoted.text path}"
  | isDirectory path => s!"[Errno 21] Is a directory: {Quoted.text path}"
  | notDirectory path => s!"[Errno 20] Not a directory: {Quoted.text path}"
  | taken path => s!"[Errno 17] File exists: {Quoted.text path}"
  | nameTooLong path => s!"[Errno 36] File name too long: {Quoted.text path}"
  | busy path => s!"[Errno 16] Device or resource busy: {Quoted.text path}"
  | unnameable report => report
  | noFreeName => "[Errno 17] No usable temporary file name found"
  | sameFile path copy inside =>
    let shown := if inside then Quoted.text copy else s!"PosixPath({Quoted.text copy})"
    s!"PosixPath({Quoted.text path}) and {shown} are the same file"
  | noName path => s!"PosixPath({Quoted.text path}) has an empty name"

/-- The failure that a fault is. One whose report cannot be written is refused for that. -/
def Failure.ofFault (fault : FlowFault) : Failure :=
  if fault.shown.all Scalar.isWritable then .flow fault else .invalid .longInteger

/-- A value that is to be shown. -/
def requireWritable (isWritable : Bool) : Except Failure Unit :=
  if isWritable then .ok () else .error (.invalid .longInteger)

/-- The report of a failure, empty where there is none. -/
def Failure.text : Failure → String
  | flow fault => fault.text
  | invalid value => value.message
  | data (.value fault) => fault.text
  | data _ => ""
  | encoding fault => fault.message
  | misshapen _ => ""
  | file fault => fault.message

end StepFlow
