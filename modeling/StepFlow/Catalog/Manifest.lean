import StepFlow.Catalog
import StepFlow.Document.Graphs
import StepFlow.Files.Tree
import StepFlow.Json.Reader
import StepFlow.Yaml.Reading

/-! Component manifests: files that declare one component each. A file that is no manifest
is left out and does not concern the others. -/
namespace StepFlow

/-- Why a file is no manifest. -/
inductive ManifestFault where
  /-- The file cannot be read, or its text is no data. -/
  | failure (failure : Failure)
  | notJson (fault : Json.Fault)
  /-- The data are not a mapping with a text for its `id`. -/
  | shape
  deriving DecidableEq

/-- A file that is left out, with the report on it. -/
structure Skipped where
  path : Path
  fault : ManifestFault
  report : String
  deriving DecidableEq

variable [Installation]

namespace Manifest

/-- What manifests in a directory are named by; those of the first kind go first. -/
def suffixes : List String := [".manifest.json", ".manifest.yaml"]

/-- The manifests in a directory, or the path itself. -/
def expand (files : Files) (path : Path) : Except FileFault (List Path) := do
  if ← files.isDirectory path then
    let names := files.namesIn (← files.locate path)
    return suffixes.flatMap fun suffix =>
      (names.filter fun name => suffix.toList.isSuffixOf name.toList).map path.child
  else return [path]

/-- The texts of field names. Names of other types are written out. -/
def fieldNames (value : Value) : Except Failure (List String) :=
  if value.isTruthy then value.itemTexts? else .ok []

/-- The fields that a manifest says are required. -/
def requiredFields (manifest : Members) : Except Failure (List String) :=
  match Members.get manifest "config_schema" with
  | .map schema => fieldNames (Members.get schema "required")
  | _ => .ok []

/-- The component that data declare, if they have the shape of a manifest. -/
def component? : Value → Except Failure (Option Component)
  | .map manifest =>
    match Members.get manifest "id" with
    | .scalar (.str id) => return some ⟨id, ← requiredFields manifest⟩
    | _ => .ok none
  | _ => .ok none

/-- Whether the file holds YAML; otherwise it holds JSON. -/
def isYaml (path : Path) : Bool :=
  [".yaml", ".yml"].contains path.suffix

/-- The data in a manifest's text. -/
def dataOf (path : Path) (text : String) : Except Failure (Except (ManifestFault × String) Value) :=
  if isYaml path then
    match Yaml.read text with
    | .ok value => .ok (.ok value)
    | .error failure =>
      if failure.isRefusal then .ok (.error (.failure (.data failure), failure.message text))
      else .error (.data failure)
  else
    match Json.read text with
    | .ok value => .ok (.ok value)
    | .error fault =>
      match fault.reason with
      | .tooManyDigits digits =>
        let failure := Yaml.Failure.value (.digitLimit digits)
        .ok (.error (.failure (.data failure), failure.message text))
      | .tooDeep => .error (.data (.value .tooDeep))
      | .outside => .error (.data .outside)
      | _ => .ok (.error (.notJson fault, fault.message text))

/-- Reads a manifest. The outer failures concern the whole catalog. -/
def read (files : Files) (path : Path) : Except Failure (Except Skipped Component) := do
  let skip (fault : ManifestFault) (report : String) : Except Failure (Except Skipped Component) :=
    .ok (.error ⟨path, fault, report⟩)
  match files.readText path with
  | .error (.data failure) => .error (.data failure)
  | .error failure => skip (.failure failure) failure.text
  | .ok text =>
    match ← dataOf path text with
    | .error (fault, report) => skip fault report
    | .ok value =>
      match component? value with
      | .ok (some component) => return .ok component
      | .ok none => skip .shape "manifest must be a mapping with a string 'id'"
      | .error (.invalid value) => skip (.failure (.invalid value)) value.message
      | .error failure => .error failure

end Manifest

namespace Catalog

/-- Adds a component, or notes the file that has none. -/
def absorb (loaded : Catalog × List Skipped) : Except Skipped Component → Catalog × List Skipped
  | .ok component => (loaded.1.insert component, loaded.2)
  | .error skipped => (loaded.1, loaded.2 ++ [skipped])

/-- Loads the manifests under these paths, in order. -/
def load (files : Files) (paths : List Path) : Except Failure (Catalog × List Skipped) := do
  let expanded ← (paths.mapM (Manifest.expand files)).mapError .file
  let results ← expanded.flatten.mapM (Manifest.read files)
  return results.foldl absorb (.empty, [])

end Catalog

end StepFlow
