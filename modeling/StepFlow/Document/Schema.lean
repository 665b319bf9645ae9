import StepFlow.Failure

/-! The rules that every flow document keeps. A check answers with the violations of a
value, each under the path that leads to it. -/
namespace StepFlow.Schema

/-- A violation under a path of keys and positions. It may be that neither it nor the
path can be written. -/
structure Finding where
  path : List String
  message : String
  isWritable : Bool
  deriving DecidableEq

/-- Rules for a value, as the violations they find. -/
abbrev Rule := Value → List Finding

/-- A violation of the value itself. -/
def finding (message : String) (isWritable : Bool) : List Finding :=
  [⟨[], message, isWritable⟩]

/-- A violation that is told by showing the value. -/
def findingOf (value : Value) (what : String) : List Finding :=
  finding (value.quoted ++ what) value.isWritable

/-- Violations of a part, seen from the whole. -/
def under (step : Scalar) (findings : List Finding) : List Finding :=
  findings.map fun finding =>
    ⟨step.text :: finding.path, finding.message, step.isWritable && finding.isWritable⟩

/-- The types that rules ask for. -/
inductive Typ where
  | object
  | array
  | string
  | integer
  | boolean
  | null
  deriving DecidableEq

def Typ.name : Typ → String
  | object => "object"
  | array => "array"
  | string => "string"
  | integer => "integer"
  | boolean => "boolean"
  | null => "null"

/-- A number without fraction is an integer in either notation; truth values are none. -/
def Typ.admits : Typ → Value → Bool
  | object, .map _ => true
  | array, .list _ => true
  | string, .scalar (.str _) => true
  | integer, .scalar (.int _) => true
  | integer, .scalar (.float x) => x.toInt?.isSome
  | boolean, .scalar (.bool _) => true
  | null, .scalar .null => true
  | _, _ => false

def hasType (types : List Typ) : Rule := fun value =>
  if types.any (·.admits value) then []
  else
    let names := ", ".intercalate (types.map fun type => Quoted.text type.name)
    findingOf value s!" is not of type {names}"

def nonEmptyString : Rule
  | .scalar (.str "") => findingOf (.str "") " should be non-empty"
  | _ => []

def nonEmptyObject : Rule
  | .map [] => findingOf (.map []) " should be non-empty"
  | _ => []

/-- Whether a number is less than one. -/
def isBelowOne : Value → Bool
  | .scalar (.int n) => n < 1
  | .scalar (.float x) => x.toFloat < 1.0
  | _ => false

def atLeastOne : Rule := fun value =>
  if isBelowOne value then findingOf value " is less than the minimum of 1" else []

/-- All the rules, in their order. -/
def all (rules : List Rule) : Rule := fun value =>
  rules.flatMap fun rule => rule value

/-- Rules for the members of an object that it has; other values have none. -/
def properties (rules : List (String × Rule)) : Rule
  | .map members =>
    rules.flatMap fun (key, rule) =>
      match Keyed.get? members key with
      | some value => under (.str key) (rule value)
      | none => []
  | _ => []

def required (keys : List String) : Rule
  | .map members =>
    keys.flatMap fun (key : String) =>
      if Keyed.contains members key then []
      else findingOf (.str key) " is a required property"
  | _ => []

/-- One rule for every member of an object. -/
def everyMember (rule : Rule) : Rule
  | .map members => members.flatMap fun (key, value) => under key (rule value)
  | _ => []

/-- One rule for every key of an object, reported for the object. -/
def everyKey (rule : Rule) : Rule
  | .map members => members.flatMap fun (key, _) => rule (.scalar key)
  | _ => []

def everyItem (rule : Rule) : Rule
  | .list items => items.zipIdx.flatMap fun (item, place) => under (.int place) (rule item)
  | _ => []

/-- The keys of an object beside the known ones, by their text. -/
def extraKeys (known : List String) (members : Members) : List Scalar :=
  let extras := (Keyed.keys members).filter fun key => !known.any fun name => key.same name
  extras.mergeSort fun a b => !Surrogate.precedes b.text a.text

def onlyMembers (known : List String) : Rule
  | .map members =>
    match extraKeys known members with
    | [] => []
    | extras =>
      let names := ", ".intercalate (extras.map Scalar.quoted)
      let verb := if extras.length = 1 then "was" else "were"
      finding s!"Additional properties are not allowed ({names} {verb} unexpected)"
        (extras.all Scalar.isWritable)
  | _ => []

/-- A route has no members but these four. -/
def route : Rule := all [
  hasType [.object],
  properties [("to", all [hasType [.string], nonEmptyString]), ("out", hasType [.boolean]),
    ("status", hasType [.string]), ("reply", hasType [.boolean])],
  onlyMembers ["to", "out", "status", "reply"]]

def isRoutingWord : Value → Bool
  | .scalar (.str s) => s = "out" || s = "reply"
  | _ => false

def isRouteList (value : Value) : Bool :=
  all [hasType [.array], everyItem route] value |>.isEmpty

/-- Routing is absent, one of two words, or a list of routes. -/
def routing : Rule := fun value =>
  if value.isNull || isRoutingWord value || isRouteList value then []
  else findingOf value " is not valid under any of the given schemas"

def node : Rule := all [
  hasType [.object],
  nonEmptyObject,
  properties [("routing", routing), ("pack_alias", hasType [.string]),
    ("operation", hasType [.string]), ("telemetry", hasType [.object]),
    ("questions", hasType [.object]), ("template", hasType [.string])]]

/-- The members that a document may have, with their rules. -/
def documentMembers : List (String × Rule) := [
  ("id", all [hasType [.string], nonEmptyString]),
  ("type", all [hasType [.string], nonEmptyString]),
  ("title", hasType [.string]),
  ("description", hasType [.string]),
  ("start", hasType [.string, .null]),
  ("parameters", hasType [.object]),
  ("tags", all [hasType [.array], everyItem (hasType [.string])]),
  ("schema_version", all [hasType [.integer, .null], atLeastOne]),
  ("entrypoints",
    all [hasType [.object], everyMember (all [hasType [.string], nonEmptyString])]),
  ("meta", hasType [.object, .null]),
  ("nodes", all [hasType [.object], everyKey nonEmptyString, everyMember node])]

def document : Rule := all [
  hasType [.object],
  required ["id", "type", "nodes"],
  properties documentMembers,
  onlyMembers (documentMembers.map Prod.fst)]

/-- Lexicographic order of paths; a path comes before its continuations. -/
def pathPrecedes : List String → List String → Bool
  | [], _ => true
  | _ :: _, [] => false
  | a :: as, b :: bs => Surrogate.precedes a b || (a = b && pathPrecedes as bs)

/-- The findings by path, as they are reported. -/
def listed (findings : List Finding) : List Violation :=
  (findings.mergeSort fun a b => pathPrecedes a.path b.path).map fun finding =>
    ⟨finding.message, "/" ++ "/".intercalate finding.path⟩

theorem listed_eq_nil_iff {findings : List Finding} : listed findings = [] ↔ findings = [] := by
  rw [listed, List.map_eq_nil_iff, ← List.length_eq_zero_iff, List.length_mergeSort,
    List.length_eq_zero_iff]

/-- The violations of a document. -/
def violations (value : Value) : Except Failure (List Violation) := do
  let findings := document value
  requireWritable (findings.all Finding.isWritable)
  return listed findings

theorem violations_eq_ok_nil_iff {value : Value} :
    violations value = .ok [] ↔ document value = [] := by
  unfold violations requireWritable
  constructor
  · intro h
    cases writable : (document value).all Finding.isWritable with
    | true =>
      simp only [writable, if_true] at h
      exact listed_eq_nil_iff.mp (Except.ok.inj h)
    | false =>
      simp only [writable] at h
      exact nomatch h
  · intro none
    rw [none]
    exact congrArg Except.ok (listed_eq_nil_iff.mpr rfl)

end StepFlow.Schema
