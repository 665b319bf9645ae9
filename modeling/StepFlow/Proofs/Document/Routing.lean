import StepFlow.Document.Routes
import StepFlow.Proofs.Document.Rules
import StepFlow.Proofs.Outcome

/-! Routes written and read back. Main statement: routes whose written form keeps the rule
for routing come back as they were. -/
namespace StepFlow

open Outcome

/-- The target, if there is one, is a text. -/
def Route.LeadsByText (route : Route) : Prop :=
  ∀ target, route.target = some target → ∃ s, target = .str s

namespace Route

variable {route : Route}

theorem get?_to_toMembers :
    Keyed.get? route.toMembers (.str "to") = route.target.map .scalar := by
  obtain ⟨target, out, status, reply⟩ := route
  cases target <;> cases out <;> cases status <;> cases reply <;> rfl

theorem ofValue?_toMembers (text : route.LeadsByText) :
    ofValue? (.map route.toMembers) = .ok route := by
  obtain ⟨target, out, status, reply⟩ := route
  cases target with
  | none => cases out <;> cases status <;> cases reply <;> rfl
  | some target =>
    obtain ⟨s, rfl⟩ := text target rfl
    cases out <;> cases status <;> cases reply <;> rfl

theorem of_ofValue? {value : Value} (read : ofValue? value = .ok route) :
    ∃ members, value = .map members ∧ route = ofMembers members := by
  unfold ofValue? at read
  split at read
  · split at read
    · cases read
    · simp only at read
      split at read <;> cases read
      exact ⟨_, rfl, rfl⟩
  · cases read

theorem target_ofMembers {members : Members} {target : Scalar}
    (isTarget : (ofMembers members).target = some target) :
    ∃ s, target = .str s ∧ Keyed.get? members (.str "to") = some (.str s) := by
  obtain ⟨s, text, rfl⟩ := Option.map_eq_some_iff.mp isTarget
  refine ⟨s, rfl, ?_⟩
  unfold Members.get at text
  cases found : Keyed.get? members (.str "to") with
  | none =>
    rw [found] at text
    cases text
  | some value =>
    rw [found, Option.getD_some] at text
    unfold Value.str? at text
    split at text <;> cases text
    rfl

theorem leadsByText_of_ofValue? {value : Value} (read : ofValue? value = .ok route) :
    route.LeadsByText := by
  obtain ⟨members, -, rfl⟩ := of_ofValue? read
  intro target isTarget
  obtain ⟨s, isText, -⟩ := target_ofMembers isTarget
  exact ⟨s, isText⟩

theorem leadsByText_of_kept (kept : Schema.route (.map route.toMembers) = []) :
    route.LeadsByText := by
  intro target isTarget
  obtain ⟨s, -, same⟩ := Schema.isGivenText_of_route kept
    (get?_to_toMembers.trans (by rw [isTarget]; rfl))
  exact ⟨s, Value.scalar.inj same⟩

end Route

variable {routes : List Route} {value : Value}

/-- Each route of a list was read from one of its items. -/
theorem of_mem_parseRouteList {route : Route} (parsed : parseRouteList value = .ok routes)
    (member : route ∈ routes) :
    ∃ items item, value = .list items ∧ item ∈ items ∧ Route.ofValue? item = .ok route := by
  unfold parseRouteList at parsed
  split at parsed
  · cases parsed
    contradiction
  · rename_i items
    obtain ⟨item, isItem, once⟩ := exists_of_mem_mapM parsed member
    exact ⟨items, item, rfl, isItem, once⟩
  · cases parsed

/-- Whatever is read as routes leads by text. -/
theorem leadsByText_of_parseRouteList (parsed : parseRouteList value = .ok routes) :
    ∀ route ∈ routes, route.LeadsByText := by
  intro route member
  obtain ⟨items, item, -, -, once⟩ := of_mem_parseRouteList parsed member
  exact Route.leadsByText_of_ofValue? once

theorem target_wordRoute? {word : String} {route : Route} (spelled : wordRoute? word = some route) :
    route.target = none := by
  unfold wordRoute? at spelled
  split at spelled
  · cases spelled
    rfl
  · split at spelled <;> cases spelled
    rfl

/-- A route that a word stands for has no target; others are items of a list. -/
theorem of_mem_parseRoutes {route : Route} (parsed : parseRoutes value = .ok routes)
    (member : route ∈ routes) : route.target = none ∨
      ∃ items item, value = .list items ∧ item ∈ items ∧ Route.ofValue? item = .ok route := by
  unfold parseRoutes at parsed
  split at parsed
  · split at parsed
    · rename_i lone spelled
      cases parsed
      obtain rfl := List.mem_singleton.mp member
      exact .inl (target_wordRoute? spelled)
    · cases parsed
  · exact .inr (of_mem_parseRouteList parsed member)

theorem leadsByText_of_parseRoutes (parsed : parseRoutes value = .ok routes) :
    ∀ route ∈ routes, route.LeadsByText := by
  intro route member
  rcases of_mem_parseRoutes parsed member with none | ⟨items, item, -, -, once⟩
  · exact fun target isTarget => nomatch none.symm.trans isTarget
  · exact Route.leadsByText_of_ofValue? once

theorem parseRouteList_toMembers (texts : ∀ route ∈ routes, route.LeadsByText) :
    parseRouteList (.list (routes.map fun route => .map route.toMembers)) = .ok routes := by
  change List.mapM Route.ofValue? _ = _
  rw [mapM_eq_ok, List.forall₂_map_left_iff, List.forall₂_same]
  exact fun route member => Route.ofValue?_toMembers (texts route member)

/-- Documents take every list of routes. -/
theorem parseRoutes_of_parseRouteList (parsed : parseRouteList value = .ok routes) :
    parseRoutes value = .ok routes := by
  unfold parseRoutes
  split
  · cases parsed
  · exact parsed

theorem parseRoutes_routesToValue (texts : ∀ route ∈ routes, route.LeadsByText) :
    parseRoutes (routesToValue routes) = .ok routes := by
  unfold routesToValue
  split
  · rename_i leaves
    rw [leaves]
    rfl
  split
  · rename_i answers
    rw [answers]
    rfl
  · exact parseRouteList_toMembers texts

theorem leadsByText_of_routing (kept : Schema.routing (routesToValue routes) = []) :
    ∀ route ∈ routes, route.LeadsByText := by
  intro route member
  unfold routesToValue at kept
  split at kept
  · rename_i leaves
    obtain rfl := List.mem_singleton.mp (leaves ▸ member)
    exact fun _ isTarget => nomatch isTarget
  split at kept
  · rename_i answers
    obtain rfl := List.mem_singleton.mp (answers ▸ member)
    exact fun _ isTarget => nomatch isTarget
  · have items := Schema.routing_list_eq_nil_iff.mp kept
    exact Route.leadsByText_of_kept (items _ (List.mem_map_of_mem member))

/-- Routes whose written form keeps the rule come back as they were. -/
theorem parseRoutes_of_kept (kept : Schema.routing (routesToValue routes) = []) :
    parseRoutes (routesToValue routes) = .ok routes :=
  parseRoutes_routesToValue (leadsByText_of_routing kept)

end StepFlow
