import StepFlow.Edit.Insert

/-! Changing one node in place: its operation, its payload, its routes. -/
namespace StepFlow

/-- Routes as they are given for an override: as a document value, or ready-made. -/
inductive RoutingOverride where
  | value (value : Value)
  | routes (routes : List Route)
  deriving DecidableEq

/-- What to change; nothing where nothing is given. Answers that are a mapping are set on
the payload, others take its place. -/
structure Overrides where
  operation : Option String
  answers : Option Value
  routing : Option RoutingOverride
  deriving DecidableEq

def Overrides.isEmpty (overrides : Overrides) : Bool :=
  overrides.operation.isNone && overrides.answers.isNone && overrides.routing.isNone

/-- Sets answers on a payload. -/
def mergePayload (payload answers : Value) : Value :=
  match answers, payload with
  | .map given, .map fields => .map (Keyed.update fields given)
  | .map given, _ => .map (Keyed.ofList given)
  | other, _ => other

/-- The route that a word stands for in an override. -/
def overrideWord? (word : String) : Option Route :=
  if word = "exit" then some .leave else wordRoute? word

namespace RoutingOverride

/-- The routes that an override asks for at a node. -/
def resolve (id : Scalar) : RoutingOverride → Except Failure (List Route)
  | routes ready => .ok ready
  | value (.scalar (.str word)) =>
    match overrideWord? word with
    | some route => .ok [route]
    | none => .error (.ofFault (.routing (.unknownOverride word) (.node id)))
  | value other => do
    atNode id (parseRouteList (.list (← other.items?)))

end RoutingOverride

namespace Kind

/-- The name of a kind whose routing alone can be changed. -/
def fixedName? : Kind → Option String
  | questions _ => some "QuestionsKind"
  | template _ => some "TemplateKind"
  | _ => none

/-- The kind with the overrides that concern it. -/
def override (id : Scalar) (overrides : Overrides) : Kind → Except FlowFault Kind
  | component name packAlias operation payload =>
    if (overrides.operation.map isBlankText).getD false then
      .error (.shape .operationEmpty (.node id))
    else
      .ok (.component name packAlias (overrides.operation <|> operation)
        ((overrides.answers.map (mergePayload payload)).getD payload))
  | other key payload =>
    if overrides.operation.isSome then .error (.shape .operationOnOther (.node id))
    else .ok (.other key ((overrides.answers.map (mergePayload payload)).getD payload))
  | fixed =>
    if overrides.operation.isSome || overrides.answers.isSome then
      .error (.shape (.routingOnly (fixed.fixedName?.getD "")) (.node id))
    else .ok fixed

end Kind

namespace Graph

/-- The graph with another kind and other routes of one node. -/
def revise (graph : Graph) (id : Scalar) (kind : Kind) (routing : List Route) : Graph :=
  graph.mapNodes (fun node => if node.id.same id then { node with kind, routing } else node)
    (fun node => by split <;> rfl)

/-- Overrides parts of a node. -/
def update (graph : Graph) (id : Scalar) (overrides : Overrides) : Except Failure Graph :=
  match graph.node? id with
  | none => .error (.ofFault (.nodeNotFound id))
  | some node => do
    let kind ← (node.kind.override id overrides).mapError .ofFault
    let routing ← ((overrides.routing.map (RoutingOverride.resolve id)).getD (.ok node.routing))
    return graph.revise id kind routing

/-- Overrides parts of a node and checks the result. -/
def updateChecked [Installation] [Execution] (graph : Graph) (id : Scalar) (overrides : Overrides) (catalog : Option Catalog) :
    Except Failure Graph := do
  (← graph.update id overrides).checked catalog s!"nodes.{id.text}"

end Graph

end StepFlow
