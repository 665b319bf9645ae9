import StepFlow.Command.Word
import StepFlow.Edit.Delete
import StepFlow.Files.Path

/-! What a command line asks for: one task on one flow document. -/
namespace StepFlow.Command

/-- How routing is asked for; the JSON text is in a file. -/
structure RoutingSwitches where
  out : Bool
  reply : Bool
  next : Option String
  targets : Option String
  file : Option String
  deriving DecidableEq

inductive Task where
  | addStep (component : String) (payload packAlias operation after hint : Option String)
      (allowCycles : Bool) (routing : RoutingSwitches)
  | updateStep (step : String) (operation answers answersFile : Option String)
      (routing : RoutingSwitches)
  | deleteStep (step : String) (strategy : Option Strategy) (fanIn : Option FanIn)
  | validate
  deriving DecidableEq

structure Invocation where
  flow : Path
  catalogPaths : List String
  /-- Write the result back instead of printing it. -/
  write : Bool
  /-- Answer in JSON. -/
  json : Bool
  task : Task
  deriving DecidableEq

/-- The tasks by their names. -/
inductive TaskName where
  | addStep
  | updateStep
  | deleteStep
  | validate
  deriving DecidableEq

def TaskName.ofText? (text : String) : Option TaskName :=
  [("add-step", addStep), ("update-step", updateStep), ("delete-step", deleteStep),
    ("validate", validate)].lookup text

def helpForms : List Form := [⟨"-h", .help true⟩, ⟨"--help", .help false⟩]

/-- Options in front of the task. -/
def outerForms : List Form := helpForms ++ [⟨"--version", .version⟩]

def flagForm (name : String) : Form := ⟨"--" ++ name, .flag name⟩

def valueForm (name : String) : Form := ⟨"--" ++ name, .value name []⟩

/-- Routing options, of which one at most may be given. -/
def routingNames : List String :=
  ["routing-out", "routing-reply", "routing-next", "routing-multi-to", "routing-json"]

def routingForms : List Form :=
  [flagForm "routing-out", flagForm "routing-reply", valueForm "routing-next",
    valueForm "routing-multi-to", valueForm "routing-json"]

def commonForms : List Form :=
  helpForms ++ [valueForm "catalog", flagForm "write", flagForm "json", flagForm "debug"]

def TaskName.forms : TaskName → List Form
  | addStep =>
    commonForms ++
      (["component", "payload", "pack-alias", "operation", "after", "node-id"].map valueForm) ++
      [flagForm "allow-cycles"] ++ routingForms
  | updateStep =>
    commonForms ++ (["step", "operation", "answers", "answers-file"].map valueForm) ++ routingForms
  | deleteStep =>
    commonForms ++
      [valueForm "step", ⟨"--strategy", .value "strategy" Strategy.names⟩,
        ⟨"--if-multiple-predecessors", .value "if-multiple-predecessors" FanIn.names⟩]
  | validate => commonForms

/-- What the words of a task hold: the document, options with their values in order, and
whether anything is left over. -/
structure Given where
  flow : Option String
  options : List (String × String)
  leftOver : Bool

namespace Given

def nothing : Given := ⟨none, [], false⟩

def isGiven (given : Given) (name : String) : Bool :=
  given.options.any (·.1 = name)

/-- Whether a routing option meets another one that was given. -/
def excludes (given : Given) (name : String) : Bool :=
  routingNames.contains name &&
    routingNames.any fun other => other ≠ name && given.isGiven other

/-- Adds an option. Different routing options exclude each other. -/
def add (given : Given) (name value : String) : Except Stop Given :=
  if given.excludes name then .error .misuse
  else .ok { given with options := given.options ++ [(name, value)] }

/-- Adds an option with one of the choices for its value, if there are any. -/
def addValue (given : Given) (name : String) (choices : List String) (value : String) :
    Except Stop Given :=
  if choices.isEmpty || choices.contains value then given.add name value else .error .misuse

/-- Reads the words of a task. The first plain word is the document, and a separator
counts as part of it when it stands next to it. -/
def ofWords (given : Given) : List Word → Except Stop Given
  | [] => .ok given
  | .plain text :: .separator :: words =>
    if given.flow.isNone then ofWords { given with flow := some text } words
    else ofWords { given with leftOver := true } words
  | .plain text :: words =>
    if given.flow.isNone then ofWords { given with flow := some text } words
    else ofWords { given with leftOver := true } words
  | .separator :: .plain text :: words =>
    if given.flow.isNone then ofWords { given with flow := some text } words
    else ofWords { given with leftOver := true } words
  | .separator :: words => ofWords { given with leftOver := true } words
  | .unknown :: words => ofWords { given with leftOver := true } words
  | .option (.help short) attached :: _ => .error (helpStop short attached)
  | .option .version attached :: _ => .error (versionStop attached)
  | .option (.flag name) none :: words => do ofWords (← given.add name "") words
  | .option (.flag _) (some _) :: _ => .error .misuse
  | .option (.value name choices) (some value) :: words => do
    ofWords (← given.addValue name choices value) words
  | .option (.value name choices) none :: .plain value :: words => do
    ofWords (← given.addValue name choices value) words
  | .option (.value _ _) none :: _ => .error .misuse

/-- The value of an option; the last one counts. -/
def value? (given : Given) (name : String) : Option String :=
  ((given.options.filter (·.1 = name)).getLast?).map Prod.snd

def values (given : Given) (name : String) : List String :=
  (given.options.filter (·.1 = name)).map Prod.snd

def required (given : Given) (name : String) : Except Stop String :=
  match given.value? name with
  | some value => .ok value
  | none => .error .misuse

def routing (given : Given) : RoutingSwitches where
  out := given.isGiven "routing-out"
  reply := given.isGiven "routing-reply"
  next := given.value? "routing-next"
  targets := given.value? "routing-multi-to"
  file := given.value? "routing-json"

def task (given : Given) : TaskName → Except Stop Task
  | .addStep => do
    return .addStep (← given.required "component") (given.value? "payload")
      (given.value? "pack-alias") (given.value? "operation") (given.value? "after")
      (given.value? "node-id") (given.isGiven "allow-cycles") given.routing
  | .updateStep => do
    return .updateStep (← given.required "step") (given.value? "operation")
      (given.value? "answers") (given.value? "answers-file") given.routing
  | .deleteStep => do
    return .deleteStep (← given.required "step")
      ((given.value? "strategy").bind Strategy.ofName?)
      ((given.value? "if-multiple-predecessors").bind FanIn.ofName?)
  | .validate => .ok .validate

end Given

namespace Invocation

/-- The invocation of a task with these words. -/
def ofTask (name : TaskName) (texts : List String) : Except Stop Invocation := do
  let given ← Given.nothing.ofWords (← Word.ofTexts name.forms texts)
  let task ← given.task name
  match given.flow, given.leftOver with
  | some flow, false =>
    return {
      flow := .ofText flow
      catalogPaths := given.values "catalog"
      write := given.isGiven "write"
      json := given.isGiven "json"
      task }
  | _, _ => throw .misuse

/-- Reads the words up to the name of the task; all words after it are the task's. -/
def ofOuterWords (understood : Bool) : List Word → List String → Except Stop Invocation
  | .option .version attached :: _, _ => .error (versionStop attached)
  | .option (.help short) attached :: _, _ => .error (helpStop short attached)
  | .plain name :: _, _ :: texts =>
    match TaskName.ofText? name with
    | some name => do
      let invocation ← ofTask name texts
      if understood then return invocation else throw .misuse
    | none => .error .misuse
  | .unknown :: words, _ :: texts => ofOuterWords false words texts
  | _, _ => .error .misuse

/-- Understands a command line. -/
def ofArguments (texts : List String) : Except Stop Invocation := do
  ofOuterWords true (← Word.ofTexts outerForms texts) texts

end Invocation

end StepFlow.Command
