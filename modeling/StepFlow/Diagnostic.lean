import StepFlow.Text.Surrogate

/-! Diagnostics: findings about a flow or a planned insertion, made to be collected. -/
namespace StepFlow

/-- What a diagnostic is about. Reports may carry codes of other origin. -/
inductive Code where
  | anchorMissing
  | idPlaceholder
  | nodeInvalid
  | componentUnknown
  | routingInvalid
  | routingCycle
  | routingMissing
  | entrypointMissing
  | routeTargetMissing
  | payloadRequired
  | configRequired
  | componentNotFound
  | fieldsRequired
  | templateEmpty
  | other (name : String)
  deriving DecidableEq

def Code.name : Code → String
  | anchorMissing => "ADD_STEP_ANCHOR_MISSING"
  | idPlaceholder => "ADD_STEP_NODE_ID_PLACEHOLDER"
  | nodeInvalid => "ADD_STEP_NODE_INVALID"
  | componentUnknown => "ADD_STEP_COMPONENT_UNKNOWN"
  | routingInvalid => "ADD_STEP_ROUTING_INVALID"
  | routingCycle => "ADD_STEP_ROUTING_CYCLE"
  | routingMissing => "ADD_STEP_ROUTING_MISSING"
  | entrypointMissing => "ENTRYPOINT_MISSING"
  | routeTargetMissing => "ROUTE_TARGET_MISSING"
  | payloadRequired => "COMPONENT_PAYLOAD_REQUIRED"
  | configRequired => "COMPONENT_CONFIG_REQUIRED"
  | componentNotFound => "COMPONENT_NOT_FOUND"
  | fieldsRequired => "QUESTIONS_FIELDS_REQUIRED"
  | templateEmpty => "TEMPLATE_EMPTY"
  | other name => name

structure Diagnostic where
  code : Code
  message : String
  location : Option String
  deriving DecidableEq

namespace Diagnostic

/-- The line that a report shows. -/
def line (d : Diagnostic) : String :=
  let place := match d.location with
    | some location => if location = "" then "" else location ++ " "
    | none => ""
  s!"[FAIL] {d.code.name}: {place}{d.message}"

def brief (d : Diagnostic) : String :=
  s!"{d.code.name}: {d.message}"

/-- By location, then by code; no location comes first. -/
def precedes (a b : Diagnostic) : Bool :=
  let place (d : Diagnostic) := d.location.getD ""
  Surrogate.precedes (place a) (place b) || (place a = place b && !(b.code.name < a.code.name))

/-- In the order of `precedes`; equal ones keep their order. -/
def sorted (ds : List Diagnostic) : List Diagnostic :=
  ds.mergeSort precedes

/-- All of them on one line. -/
def summary (ds : List Diagnostic) : String :=
  "; ".intercalate (ds.map brief)

end Diagnostic

end StepFlow
