import StepFlow.Fault
import StepFlow.Flow.Route

/-! Routes around an inserted node: it takes over the anchor's routes in the place of
placeholders, and the anchor leads to it. Edges back to the anchor need permission. -/
namespace StepFlow

/-- Whether a route leads back to the anchor without permission. -/
def closesCycle (allowCycles : Bool) (anchor : Scalar) (route : Route) : Bool :=
  !allowCycles && route.leadsTo anchor

/-- The routes that one route of the new node becomes. -/
def expandRoute (fallback : List Route) (route : Route) : List Route :=
  if route.isPlaceholder then fallback else [route]

/-- Replaces each placeholder by all fallback routes. A cycle is reported before a missing
placeholder. -/
def expandRoutes (provided fallback : List Route) (allowCycles : Bool) (anchor : Scalar)
    (requirePlaceholder : Bool) : Except FlowFault (List Route) :=
  let expanded := provided.flatMap (expandRoute fallback)
  if expanded.any (closesCycle allowCycles anchor) then
    .error (.routing (.cycle anchor) (.node anchor))
  else if requirePlaceholder && !provided.any Route.isPlaceholder then
    .error (.routing .placeholderMissing .draft)
  else .ok expanded

/-- The routes of the anchor once a node follows it. -/
def threadAnchor (newId : Scalar) (prior : List Route) (allowCycles : Bool) (anchor : Scalar) :
    Except FlowFault (List Route) :=
  if prior.any (closesCycle allowCycles anchor) then
    .error (.routing (.anchorCycle anchor) (.node anchor))
  else .ok [.toNode newId]

end StepFlow
