import StepFlow.Document.Graphs
import StepFlow.Edit.Delete
import StepFlow.Warning
import StepFlow.Yaml.Reading

/-! Settings of edits. A variable of the environment goes before the configuration, and
the configuration before the default. What is not understood is reported and the default
taken. -/
namespace StepFlow

/-- Variables with their values, the first of a name being the one that counts. -/
abbrev Environment := List (String × String)

structure Settings where
  allowCycles : Bool
  requirePlaceholder : Bool
  keepBackup : Bool
  strategy : Strategy
  fanIn : FanIn
  catalogPaths : List String
  deriving DecidableEq

namespace Settings

/-- The data of a configuration; it is only looked at where the environment is silent. -/
abbrev Configuration := Except Failure Value

/-- What a setting is, with the reports on it. -/
structure Resolved (α : Type) where
  value : α
  warnings : List Warning

/-- The configuration that a text holds. Without a text, or with nothing in it, there is
an empty one. -/
def configuration [Installation] (text : Option String) : Configuration :=
  match text with
  | none => .ok (.map [])
  | some text =>
    match Yaml.read text with
    | .ok value => .ok (if value.isTruthy then value else .map [])
    | .error failure => .error (.data failure)

def variableName (key : String) : String :=
  "FLOWGRAPH_" ++ key.map Char.toUpper

def valueOf? (environment : Environment) (key : String) : Option String :=
  environment.lookup (variableName key)

/-- The value of a key among the configured defaults. -/
def configured (configuration : Configuration) (key : String) : Except Failure Value := do
  match ← configuration with
  | .map members =>
    match Keyed.get? members "defaults" with
    | none => return .null
    | some (.map defaults) => return Members.get defaults key
    | some _ => throw (.misshapen .noMapping)
  | _ => throw (.misshapen .noMapping)

/-- The truth value that a word stands for. -/
def flagOf? (word : String) : Option Bool :=
  let word := lowerAscii (trim word)
  if ["1", "true", "yes", "on"].contains word then some true
  else if ["0", "false", "no", "off"].contains word then some false
  else none

def configuredFlag (configuration : Configuration) (key : String) (default : Bool) :
    Except Failure (Resolved Bool) := do
  match ← configured configuration key with
  | .scalar (.bool flag) => return ⟨flag, []⟩
  | .scalar .null => return ⟨default, []⟩
  | value =>
    requireWritable value.isWritable
    return ⟨default, [.flagSetting key value.text default]⟩

def flag (environment : Environment) (configuration : Configuration) (key : String)
    (default : Bool) : Except Failure (Resolved Bool) :=
  match valueOf? environment key with
  | none => configuredFlag configuration key default
  | some value =>
    if isBlankText value then configuredFlag configuration key default
    else
      match flagOf? value with
      | some flag => .ok ⟨flag, []⟩
      | none => .ok ⟨default, [.flagVariable (variableName key) value default]⟩

/-- A setting with a name for each of its values. -/
structure Choice (α : Type) where
  key : String
  names : List String
  name : α → String
  ofName? : String → Option α
  default : α

def configuredChoice {α : Type} (configuration : Configuration) (choice : Choice α) :
    Except Failure (Resolved α) := do
  let value ← configured configuration choice.key
  if value.isTruthy then
    requireWritable value.isWritable
    match choice.ofName? (lowerAscii value.text) with
    | some chosen => return ⟨chosen, []⟩
    | none =>
      return ⟨choice.default,
        [.choiceSetting choice.key value.text choice.names (choice.name choice.default)]⟩
  else return ⟨choice.default, []⟩

def choose {α : Type} (environment : Environment) (configuration : Configuration)
    (choice : Choice α) : Except Failure (Resolved α) :=
  match valueOf? environment choice.key with
  | none => configuredChoice configuration choice
  | some value =>
    if value = "" then configuredChoice configuration choice
    else
      match choice.ofName? (lowerAscii value) with
      | some chosen => .ok ⟨chosen, []⟩
      | none =>
        let used := choice.name choice.default
        .ok ⟨choice.default,
          [.choiceVariable (variableName choice.key) value choice.names used]⟩

def strategyChoice : Choice Strategy where
  key := "delete_strategy"
  names := Strategy.names
  name := Strategy.name
  ofName? := Strategy.ofName?
  default := .splice

def fanInChoice : Choice FanIn where
  key := "multi_predecessor"
  names := FanIn.names
  name := FanIn.name
  ofName? := FanIn.ofName?
  default := .refuse

/-- The paths of manifests: between colons in the variable, items in the configuration. -/
def manifestPaths (environment : Environment) (configuration : Configuration) :
    Except Failure (List String) :=
  let listed := (valueOf? environment "catalog_paths").getD ""
  if listed ≠ "" then .ok ((splitText ':' listed).filter (· ≠ ""))
  else do
    match ← configuration with
    | .map members =>
      let value := Members.get members "catalog_paths"
      if value.isTruthy then value.itemTexts? else return []
    | _ => throw (.misshapen .noMapping)

/-- All settings, with the reports on them in their order. -/
def resolve [Installation] (environment : Environment) (text : Option String) :
    Except Failure (Resolved Settings) := do
  let configuration := configuration text
  let allowCycles ← flag environment configuration "allow_cycles" false
  let requirePlaceholder ← flag environment configuration "require_placeholder" true
  let keepBackup ← flag environment configuration "backup_on_write" true
  let strategy ← choose environment configuration strategyChoice
  let fanIn ← choose environment configuration fanInChoice
  let catalogPaths ← manifestPaths environment configuration
  let settings : Settings :=
    ⟨allowCycles.value, requirePlaceholder.value, keepBackup.value, strategy.value, fanIn.value,
      catalogPaths⟩
  return ⟨settings, allowCycles.warnings ++ requirePlaceholder.warnings ++ keepBackup.warnings ++
    strategy.warnings ++ fanIn.warnings⟩

end Settings

end StepFlow
