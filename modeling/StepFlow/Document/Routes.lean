import StepFlow.Flow.Route
import StepFlow.Failure

/-! Routing as documents write it: a list of routes, or a word for a lone plain marker. -/
namespace StepFlow

namespace Route

/-- The members that a route may have. -/
def memberKeys : List String := ["to", "out", "status", "reply"]

/-- Whether a member is there, neither absent nor null, without being a text. -/
def isBadText (members : Members) (key : String) : Bool :=
  let value := members.get key
  !value.isNull && value.str?.isNone

/-- Whether a member is there without being a truth value. -/
def isBadFlag (members : Members) (key : String) : Bool :=
  match Keyed.get? members key with
  | none => false
  | some (.scalar (.bool _)) => false
  | some _ => true

def ofMembers (members : Members) : Route where
  target := (members.get "to").str?.map .str
  out := members.get "out" = .bool true
  status := (members.get "status").str?
  reply := members.get "reply" = .bool true

/-- Reads one route. Unknown keys are reported first, then texts, then flags. -/
def ofValue? : Value → Except RoutingFault Route
  | .map members =>
    match (Keyed.keys members).find? fun key => !memberKeys.any fun name => key.same name with
    | some key => .error (.unsupportedKey key)
    | none =>
      let badText := ["to", "status"].find? (isBadText members)
      let badFlag := ["out", "reply"].find? (isBadFlag members)
      match badText, badFlag with
      | some key, _ => .error (.notString key)
      | none, some key => .error (.notBool key)
      | none, none => .ok (ofMembers members)
  | _ => .error .entryNotMapping

/-- The members of a route, without those that have their default. -/
def toMembers (route : Route) : Members :=
  (route.target.map fun target => (Scalar.str "to", Value.scalar target)).toList ++
    (if route.out then [(.str "out", .bool true)] else []) ++
    (route.status.map fun status => (Scalar.str "status", Value.str status)).toList ++
    (if route.reply then [(.str "reply", .bool true)] else [])

end Route

/-- Reads a list of routes; null stands for none. -/
def parseRouteList : Value → Except RoutingFault (List Route)
  | .scalar .null => .ok []
  | .list items => items.mapM Route.ofValue?
  | _ => .error .notList

/-- The route that a word of a document stands for. -/
def wordRoute? (word : String) : Option Route :=
  if word = "out" then some .leave else if word = "reply" then some .answer else none

/-- Reads the routing of a document. -/
def parseRoutes : Value → Except RoutingFault (List Route)
  | .scalar (.str word) =>
    match wordRoute? word with
    | some route => .ok [route]
    | none => .error (.unknownWord word)
  | value => parseRouteList value

/-- Writes routes. A lone plain marker becomes its word. -/
def routesToValue (routes : List Route) : Value :=
  if routes = [.leave] then .str "out"
  else if routes = [.answer] then .str "reply"
  else .list (routes.map fun route => .map route.toMembers)

/-- A fault of routing that was given at a node. -/
def atNode (id : Scalar) (result : Except RoutingFault (List Route)) :
    Except Failure (List Route) :=
  result.mapError fun fault => .ofFault (.routing fault (.node id))

end StepFlow
