import StepFlow.Edit.Draft
import StepFlow.Json.Reader
import StepFlow.Text.Split
import StepFlow.Yaml.Reading

/-! Steps and changes as a caller spells them in options: routing by a word, a target, a
list of targets or a JSON text; payloads and answers as data texts. -/
namespace StepFlow

/-- How a caller asks for routes. At most one of these should be given. -/
structure RoutingOptions where
  out : Bool
  reply : Bool
  next : Option String
  /-- Targets between commas. -/
  targets : Option String
  /-- The text of a JSON array. -/
  json : Option String
  deriving DecidableEq

variable [Installation]

namespace RoutingOptions

/-- The options that are given, by name and in order. -/
def given (options : RoutingOptions) : List String :=
  [(options.out, "out"), (options.reply, "reply"), (options.next.isSome, "next_node"),
    (options.targets.isSome, "multi_to"), (options.json.isSome, "routing_json")].filterMap
      fun (isGiven, name) => if isGiven then some name else none

/-- A fault of routing that was given as an option. -/
def fault (cause : RoutingFault) : Failure :=
  .flow (.routing cause .option)

/-- A fault of a text that should be JSON. Integers that are too long and values that are
nested too deeply are no routing fault, nor are texts that no value is. -/
def textFault (cause : String → RoutingFault) (text : String) (fault : Json.Fault) : Failure :=
  match fault.reason with
  | .tooManyDigits digits => .data (.value (.digitLimit digits))
  | .tooDeep => .data (.value .tooDeep)
  | .outside => .data .outside
  | _ => .flow (.routing (cause (fault.message text)) .option)

/-- A list of routes with one plain route each, as a value. -/
def routeValues (routes : List Route) : Value :=
  .list (routes.map fun route => .map route.toMembers)

/-- The names between commas, without blanks and without empty ones. -/
def targetNames (text : String) : List String :=
  ((splitText ',' text).map trim).filter (· ≠ "")

def targetRoutes (text : String) : Except Failure (List Route) :=
  match targetNames text with
  | [] => .error (fault .noTargets)
  | names => .ok (names.map fun (name : String) => .toNode name)

/-- The routing of a step to insert, and whether it has to take over the anchor's routes:
it has to when nothing else is asked for. -/
def insertion (options : RoutingOptions) : Except Failure (Value × Bool) :=
  if 1 < options.given.length then .error (fault (.exclusive options.given))
  else
    match options.json, options.out, options.reply, options.next, options.targets with
    | some text, _, _, _, _ =>
      match Json.read text with
      | .ok value => .ok (value, false)
      | .error cause => .error (textFault .notJson text cause)
    | none, true, _, _, _ => .ok (routeValues [.leave], false)
    | none, false, true, _, _ => .ok (routeValues [.answer], false)
    | none, false, false, some name, _ => .ok (routeValues [.toNode (.str name)], false)
    | none, false, false, none, some text =>
      (targetRoutes text).map fun routes => (routeValues routes, false)
    | none, false, false, none, none => .ok (routeValues [.placeholder], true)

/-- Where routes in a text are reported. -/
def textPlace : String := "routing"

/-- Where routes that replace those of a node are reported. -/
def overridePlace : String := "update_step"

/-- The routes that a text spells: a word, or a JSON array. -/
def routesOfText (text : String) : Except Failure (List Route) :=
  let text := trim text
  match wordRoute? text with
  | some route => .ok [route]
  | none =>
    match Json.read text with
    | .ok value => atNode textPlace (parseRouteList value)
    | .error cause => .error (textFault .notArgument text cause)

/-- The routes that take the place of a node's own, if any are asked for. A text goes
before everything else. -/
def override (options : RoutingOptions) : Except Failure (Option (List Route)) :=
  match options.given, options.json with
  | [], _ => .ok none
  | _, some text => (routesOfText text).map some
  | _, none => do
    let (value, _) ← options.insertion
    some <$> atNode overridePlace (parseRouteList value)

end RoutingOptions

/-- The description of a step with a component. Without routing it takes over the routes
of the anchor. -/
def describeStep (component : String) (payload : Value) (packAlias operation : Option String)
    (routing : Value) : Except Failure Members := do
  let routing := if routing.isNull then RoutingOptions.routeValues [.placeholder] else routing
  let texts := [("pack_alias", packAlias), ("operation", operation)].filterMap fun (key, text?) =>
    text?.map fun text => (Scalar.str key, Value.str text)
  let members := Keyed.ofList ((.str component, payload) :: texts ++ [(.str "routing", routing)])
  let _ ← Draft.ofValue? (.map members)
  return members

/-- Where a data text comes from. -/
inductive TextOrigin where
  | payload
  | answersFile (path : String)
  | answers

namespace TextOrigin

def label : TextOrigin → String
  | payload => "payload"
  | answersFile path => s!"answers file {path}"
  | answers => "--answers"

/-- Texts of one command are told apart by numbers; that of the document is zero. -/
def number : TextOrigin → Nat
  | answersFile _ => 1
  | answers => 2
  | payload => 3

end TextOrigin

/-- The value of a data text. A text that cannot be read is refused under its label. -/
def readData (origin : TextOrigin) (text : String) : Except Failure Value :=
  match Yaml.readFrom origin.number text with
  | .ok value => .ok value
  | .error (.value fault) => .error (.data (.value fault))
  | .error .outside => .error (.data .outside)
  | .error failure => .error (.invalid (.notData origin.label (failure.message text)))

def readPayload (text : String) : Except Failure Value :=
  readData .payload text

/-- The mapping of a data text; null stands for an empty one. -/
def readMapping (origin : TextOrigin) (text : String) : Except Failure Members := do
  match ← readData origin text with
  | .scalar .null => return []
  | .map members => return members
  | _ => throw (.invalid (.notMapping origin.label))

/-- Answers from a file, with its path, and from an option; the latter go first. -/
def readAnswers (file : Option (String × String)) (option : Option String) :
    Except Failure (Option Members) :=
  match file, option with
  | none, none => .ok none
  | _, _ => do
    let ofFile (path text : String) := readMapping (.answersFile path) text
    let fromFile ← (file.map fun (path, text) => ofFile path text).getD (.ok [])
    let fromOption ← (option.map (readMapping .answers)).getD (.ok [])
    return some (Keyed.update fromFile fromOption)

end StepFlow
