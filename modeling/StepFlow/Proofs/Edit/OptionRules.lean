import StepFlow.Edit.Options
import StepFlow.Proofs.Document.Routing
import StepFlow.Proofs.Json.Trimming

/-! Routing options read in two ways: for a step to insert, and for routes that replace those of a
node. Main statement: what both make of every combination of options, and for which of them they
keep the same rules. -/
namespace StepFlow

open Outcome

/-- An operation fails by a fault of routing. -/
def IsRoutingRefusal {α : Type} (result : Except Failure α) : Prop :=
  ∃ cause place, result = .error (.flow (.routing cause place))

namespace RoutingOptions

section Rules

variable {options : RoutingOptions} {text : String} {value : Value} {required : Bool}

theorem given_ne_nil_of_json (asked : options.json = some text) : options.given ≠ [] := by
  simp [given, asked]

theorem leadsByText_toNode_str {name : String} : (Route.toNode (.str name)).LeadsByText := by
  rintro target ⟨⟩
  exact ⟨name, rfl⟩

theorem leadsByText_targetRoutes {routes : List Route} (targets : targetRoutes text = .ok routes) :
    ∀ route ∈ routes, route.LeadsByText := by
  unfold targetRoutes at targets
  split at targets
  · cases targets
  · cases targets
    intro route member
    obtain ⟨name, -, rfl⟩ := List.mem_map.mp member
    exact leadsByText_toNode_str

variable [Installation]

theorem insertion_of_exclusive (several : 1 < options.given.length) :
    options.insertion = .error (fault (.exclusive options.given)) := by
  rw [insertion, if_pos several]

theorem override_of_json (asked : options.json = some text) :
    options.override = (routesOfText text).map some := by
  unfold override
  rw [asked]
  cases names : options.given with
  | nil => exact absurd names (given_ne_nil_of_json asked)
  | cons name names => rfl

theorem override_of_plain (plain : options.json = none) (asks : options.given ≠ []) :
    options.override = (do
      let (value, _) ← options.insertion
      some <$> atNode overridePlace (parseRouteList value)) := by
  unfold override
  rw [plain]
  cases names : options.given with
  | nil => exact absurd names asks
  | cons name names => rfl

/-- What a text makes of the options of a step to insert. -/
theorem insertion_eq_ok_iff_of_json (one : options.given.length ≤ 1) (asked : options.json = some text) :
    options.insertion = .ok (value, required) ↔ Json.read text = .ok value ∧ required = false := by
  unfold insertion
  rw [if_neg (by omega), asked]
  dsimp only
  cases Json.read text <;> simp [eq_comm]

/-- What the other options make of a step to insert: routes in their written form. -/
theorem insertion_of_plain (plain : options.json = none)
    (inserted : options.insertion = .ok (value, required)) :
    (∃ routes, value = routeValues routes ∧ ∀ route ∈ routes, route.LeadsByText) ∧
      (required = true ↔ options.given = []) := by
  obtain ⟨out, reply, next, targets, json⟩ := options
  obtain rfl : json = none := plain
  have lone {route : Route} (text : route.LeadsByText) : ∀ r ∈ [route], r.LeadsByText :=
    fun r member => List.mem_singleton.mp member ▸ text
  unfold insertion at inserted
  split at inserted
  · cases inserted
  cases out with
  | true =>
    cases inserted
    exact ⟨⟨[.leave], rfl, lone nofun⟩, by simp [given]⟩
  | false =>
    cases reply with
    | true =>
      cases inserted
      exact ⟨⟨[.answer], rfl, lone nofun⟩, by simp [given]⟩
    | false =>
      cases next with
      | some name =>
        cases inserted
        exact ⟨⟨[.toNode (.str name)], rfl, lone leadsByText_toNode_str⟩, by simp [given]⟩
      | none =>
        cases targets with
        | some names =>
          obtain ⟨routes, targets, same⟩ := map_eq_ok.mp inserted
          cases same
          exact ⟨⟨routes, rfl, leadsByText_targetRoutes targets⟩, by simp [given]⟩
        | none =>
          cases inserted
          exact ⟨⟨[.placeholder], rfl, lone leadsByText_toNode_str⟩, by simp [given]⟩

/-- JSON is no word for a route. -/
theorem wordRoute?_of_read (read : Json.read text = .ok value) : wordRoute? text = none := by
  unfold wordRoute?
  split
  · rename_i out
    subst out
    cases read
  · split
    · rename_i reply
      subst reply
      cases read
    · rfl

/-- A text that is JSON says the same routes to both. -/
theorem routesOfText_of_read (read : Json.read text = .ok value) :
    routesOfText text = atNode textPlace (parseRouteList value) := by
  have trimmed := Json.read_trim read
  unfold routesOfText
  simp only [wordRoute?_of_read trimmed, trimmed]

/-- What an option makes of a step to insert is read as the routes that replace a node's own. -/
theorem override_of_insertion {routes : List Route} (one : options.given.length ≤ 1)
    (asks : options.given ≠ []) (inserted : options.insertion = .ok (value, required))
    (parsed : parseRouteList value = .ok routes) : options.override = .ok (some routes) := by
  cases json : options.json with
  | none =>
    rw [override_of_plain json asks, inserted]
    change some <$> atNode overridePlace (parseRouteList value) = _
    rw [parsed]
    rfl
  | some text =>
    obtain ⟨read, -⟩ := (insertion_eq_ok_iff_of_json one json).mp inserted
    rw [override_of_json json, routesOfText_of_read read, parsed]
    rfl

theorem override_of_exclusive (several : 1 < options.given.length) (plain : options.json = none) :
    options.override = .error (fault (.exclusive options.given)) := by
  have asks : options.given ≠ [] := List.ne_nil_of_length_pos (by omega)
  rw [override_of_plain plain asks, insertion_of_exclusive several]
  rfl

theorem list_or_read (one : options.given.length ≤ 1) (inserted : options.insertion = .ok (value, required)) :
    (∃ items, value = .list items) ∨ ∃ text, options.json = some text ∧ Json.read text = .ok value := by
  cases json : options.json with
  | none =>
    obtain ⟨⟨routes, rfl, -⟩, -⟩ := insertion_of_plain json inserted
    exact .inl ⟨_, rfl⟩
  | some text => exact .inr ⟨text, rfl, ((insertion_eq_ok_iff_of_json one json).mp inserted).1⟩

/-- The routes of the anchor are taken over exactly if nothing else is asked for. -/
theorem required_iff (one : options.given.length ≤ 1) (inserted : options.insertion = .ok (value, required)) :
    required = true ↔ options.given = [] := by
  cases json : options.json with
  | none => exact (insertion_of_plain json inserted).2
  | some text =>
    obtain ⟨-, rfl⟩ := (insertion_eq_ok_iff_of_json one json).mp inserted
    exact iff_of_false Bool.false_ne_true (given_ne_nil_of_json json)

/-- The rules that both readings of the options are meant to keep. -/
structure KeepsRules (options : RoutingOptions) : Prop where
  exclusive : 1 < options.given.length →
    IsRoutingRefusal options.insertion ∧ IsRoutingRefusal options.override
  /-- What is inserted is an array. -/
  array : options.given.length ≤ 1 → ∀ value required, options.insertion = .ok (value, required) →
    ∃ items, value = .list items
  /-- The routes of the anchor are taken over exactly if nothing else is asked for. -/
  required : options.given.length ≤ 1 → ∀ value required,
    options.insertion = .ok (value, required) → (required = true ↔ options.given = [])
  routes : options.given.length ≤ 1 → options.given ≠ [] → ∀ value required routes,
    options.insertion = .ok (value, required) → parseRouteList value = .ok routes →
    options.override = .ok (some routes)

theorem keepsRules_iff : options.KeepsRules ↔ ∀ text, options.json = some text →
    if 1 < options.given.length then IsRoutingRefusal (routesOfText text)
    else ∀ value, Json.read text = .ok value → ∃ items, value = .list items := by
  constructor
  · intro keeps text json
    split
    · rename_i several
      obtain ⟨cause, place, refused⟩ := (keeps.exclusive several).2
      rw [override_of_json json, map_eq_error] at refused
      exact ⟨cause, place, refused⟩
    · rename_i one
      intro value read
      have one := Nat.le_of_not_lt one
      exact keeps.array one value false ((insertion_eq_ok_iff_of_json one json).mpr ⟨read, rfl⟩)
  · intro texts
    refine ⟨fun several => ⟨⟨_, _, insertion_of_exclusive several⟩, ?_⟩,
      fun one value required inserted => ?_, fun one _ _ => required_iff one,
      fun one asks _ _ _ => override_of_insertion one asks⟩
    · cases json : options.json with
      | none => exact ⟨_, _, override_of_exclusive several json⟩
      | some text =>
        have refused := texts text json
        rw [if_pos several] at refused
        obtain ⟨cause, place, refused⟩ := refused
        exact ⟨cause, place, by rw [override_of_json json, refused]; rfl⟩
    · rcases list_or_read one inserted with array | ⟨text, json, read⟩
      · exact array
      · have array := texts text json
        rw [if_neg (by omega)] at array
        exact array value read

/-- Options that exclude each other are refused for a step to insert. Where a node's routes are
replaced a text goes before all others. Of one option both make the same routes, and an array
but for what a text spells. So the rules are kept exactly if a text that stands beside another option
is refused by itself, and one that stands alone spells an array. -/
theorem insertion_and_override (options : RoutingOptions) :
    (1 < options.given.length →
      options.insertion = .error (fault (.exclusive options.given)) ∧
      (options.json = none → options.override = .error (fault (.exclusive options.given))) ∧
      ∀ text, options.json = some text → options.override = (routesOfText text).map some) ∧
    (options.given.length ≤ 1 → ∀ value required, options.insertion = .ok (value, required) →
      ((∃ items, value = .list items) ∨
        ∃ text, options.json = some text ∧ Json.read text = .ok value) ∧
      (required = true ↔ options.given = []) ∧
      (options.given ≠ [] → ∀ routes, parseRouteList value = .ok routes →
        options.override = .ok (some routes))) ∧
    (options.KeepsRules ↔ ∀ text, options.json = some text →
      if 1 < options.given.length then IsRoutingRefusal (routesOfText text)
      else ∀ value, Json.read text = .ok value → ∃ items, value = .list items) := by
  refine ⟨fun several => ?_, fun one value required inserted => ?_, keepsRules_iff⟩
  · exact ⟨insertion_of_exclusive several, override_of_exclusive several, fun _ => override_of_json⟩
  · exact ⟨list_or_read one inserted, required_iff one inserted,
      fun asks _ => override_of_insertion one asks inserted⟩

end Rules

attribute [local instance] Installation.usual

/-- A text between blanks that spells one route. -/
theorem insertion_and_override_ask :
    (⟨false, false, none, none, some " [\x7b\"to\": \"ask\"\x7d] "⟩ : RoutingOptions).KeepsRules ∧
      (⟨false, false, none, none, some " [\x7b\"to\": \"ask\"\x7d] "⟩ : RoutingOptions).override =
        .ok (some [.toNode (.str "ask")]) := by
  refine ⟨(insertion_and_override _).2.2.mpr ?_, ?_⟩
  · rintro text ⟨⟩
    rw [if_neg (by decide)]
    intro value read
    cases read
    exact ⟨_, rfl⟩
  · exact ((insertion_and_override _).2.1 (by decide) _ _ rfl).2.2 (by decide) _ rfl

/-- The empty array beside another option is no fault where a node's routes are replaced, and an
object is inserted as it is. -/
theorem not_keepsRules_leave :
    ¬ (⟨true, false, none, none, some "[]"⟩ : RoutingOptions).KeepsRules ∧
      ¬ (⟨false, false, none, none, some "\x7b\x7d"⟩ : RoutingOptions).KeepsRules := by
  constructor
  · intro keeps
    obtain ⟨cause, place, refused⟩ := (keeps.exclusive (by decide)).2
    cases refused
  · intro keeps
    obtain ⟨items, array⟩ := keeps.array (by decide) (.map []) false rfl
    cases array

end RoutingOptions

end StepFlow
