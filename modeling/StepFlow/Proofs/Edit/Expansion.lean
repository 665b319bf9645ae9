import StepFlow.Proofs.Edit.Planning

/-! What comes of the routes of a draft. Main statement: unless a route would lead back to the
anchor, or a placeholder is required and none is given, all routes of the anchor stand in the place
of each placeholder, and the others are as they were given. -/
namespace StepFlow

/-- A given route leads to the anchor, or one that is taken over does. -/
def LeadsBack (provided fallback : List Route) (anchor : Scalar) : Prop :=
  (∃ route ∈ provided, route.isPlaceholder = false ∧ route.leadsTo anchor = true) ∨
    (∃ route ∈ provided, route.isPlaceholder = true) ∧ ∃ route ∈ fallback, route.leadsTo anchor = true

/-- The routes of a draft with those of the anchor taken over. What is taken over is not searched
for placeholders again. -/
structure Expanded (provided fallback : List Route) (allowCycles : Bool) (anchor : Scalar)
    (routes : List Route) : Prop where
  replaced : Substitutes Route.isPlaceholder fallback provided routes
  length : routes.length = provided.countP (fun route => !route.isPlaceholder) +
    provided.countP Route.isPlaceholder * fallback.length
  placeholders : routes.countP Route.isPlaceholder =
    provided.countP Route.isPlaceholder * fallback.countP Route.isPlaceholder
  acyclic : allowCycles = false → ∀ route ∈ routes, route.leadsTo anchor = false

variable {provided fallback routes : List Route} {allowCycles requirePlaceholder : Bool}
  {anchor : Scalar}

theorem leadsBack_iff (done : Substitutes Route.isPlaceholder fallback provided routes) :
    (∃ route ∈ routes, route.leadsTo anchor = true) ↔ LeadsBack provided fallback anchor := by
  constructor
  · rintro ⟨route, member, leads⟩
    rcases done.mem_iff.mp member with ⟨given, concrete⟩ | ⟨taken, inherits⟩
    · exact .inl ⟨route, given, concrete, leads⟩
    · exact .inr ⟨inherits, route, taken, leads⟩
  · rintro (⟨route, given, concrete, leads⟩ | ⟨inherits, route, taken, leads⟩)
    · exact ⟨route, done.mem_iff.mpr (.inl ⟨given, concrete⟩), leads⟩
    · exact ⟨route, done.mem_iff.mpr (.inr ⟨taken, inherits⟩), leads⟩

theorem any_closesCycle_expanded :
    (provided.flatMap (expandRoute fallback)).any (closesCycle allowCycles anchor) = true ↔
      allowCycles = false ∧ LeadsBack provided fallback anchor := by
  rw [any_closesCycle_iff, leadsBack_iff substitutes_expandRoute]

/-- No placeholder of those that are taken over is given way to again. -/
theorem Expanded.of_substitutes (done : Substitutes Route.isPlaceholder fallback provided routes)
    (away : ¬ (allowCycles = false ∧ LeadsBack provided fallback anchor)) :
    Expanded provided fallback allowCycles anchor routes where
  replaced := done
  length := done.length_eq
  placeholders := by
    rw [done.countP_eq]
    simp
  acyclic refused route member := by
    rw [Bool.eq_false_iff]
    intro leads
    exact away ⟨refused, (leadsBack_iff done).mp ⟨route, member, leads⟩⟩

theorem expandRoutes_of_leadsBack (refused : allowCycles = false)
    (back : LeadsBack provided fallback anchor) :
    expandRoutes provided fallback allowCycles anchor requirePlaceholder =
      .error (.routing (.cycle anchor) (.node anchor)) := by
  simp only [expandRoutes, any_closesCycle_expanded.mpr ⟨refused, back⟩, if_true]

theorem expandRoutes_of_missing
    (away : ¬ (allowCycles = false ∧ LeadsBack provided fallback anchor))
    (required : requirePlaceholder = true) (missing : ∀ route ∈ provided, route.isPlaceholder = false) :
    expandRoutes provided fallback allowCycles anchor requirePlaceholder =
      .error (.routing .placeholderMissing .draft) := by
  have none : provided.any Route.isPlaceholder = false := List.any_eq_false.mpr (by simpa using missing)
  rw [← any_closesCycle_expanded] at away
  simp only [expandRoutes, if_neg away, required, none, Bool.not_false, Bool.and_self, if_true]

theorem expandRoutes_of_given (away : ¬ (allowCycles = false ∧ LeadsBack provided fallback anchor))
    (given : requirePlaceholder = true → ∃ route ∈ provided, route.isPlaceholder = true) :
    expandRoutes provided fallback allowCycles anchor requirePlaceholder =
      .ok (provided.flatMap (expandRoute fallback)) := by
  refine expandRoutes_eq_ok_iff.mpr ⟨rfl, fun route member => ?_,
    fun required => List.any_eq_true.mpr (given required)⟩
  rw [← any_closesCycle_expanded, List.any_eq_true, not_exists] at away
  exact Bool.eq_false_iff.mpr fun closes => away route ⟨member, closes⟩

/-- A cycle is reported first, then a missing placeholder; otherwise the routes are those of the
draft and of the anchor, and none leads back without permission. -/
theorem expandRoutes_outcome (provided fallback : List Route) (allowCycles : Bool) (anchor : Scalar)
    (requirePlaceholder : Bool) :
    (expandRoutes provided fallback allowCycles anchor requirePlaceholder =
        .error (.routing (.cycle anchor) (.node anchor)) ↔
      allowCycles = false ∧ LeadsBack provided fallback anchor) ∧
    (expandRoutes provided fallback allowCycles anchor requirePlaceholder =
        .error (.routing .placeholderMissing .draft) ↔
      ¬ (allowCycles = false ∧ LeadsBack provided fallback anchor) ∧ requirePlaceholder = true ∧
        ∀ route ∈ provided, route.isPlaceholder = false) ∧
    (¬ (allowCycles = false ∧ LeadsBack provided fallback anchor) →
      ¬ (requirePlaceholder = true ∧ ∀ route ∈ provided, route.isPlaceholder = false) →
      ∃ routes, expandRoutes provided fallback allowCycles anchor requirePlaceholder = .ok routes ∧
        Expanded provided fallback allowCycles anchor routes) := by
  by_cases back : allowCycles = false ∧ LeadsBack provided fallback anchor
  · rw [expandRoutes_of_leadsBack back.1 back.2]
    exact ⟨iff_of_true rfl back, iff_of_false (by simp) fun other => other.1 back,
      fun away => absurd back away⟩
  by_cases missing : requirePlaceholder = true ∧ ∀ route ∈ provided, route.isPlaceholder = false
  · rw [expandRoutes_of_missing back missing.1 missing.2]
    exact ⟨iff_of_false (by simp) back, iff_of_true rfl ⟨back, missing⟩,
      fun _ given => absurd missing given⟩
  · have given (required : requirePlaceholder = true) :
        ∃ route ∈ provided, route.isPlaceholder = true := by
      simpa using fun none => missing ⟨required, none⟩
    rw [expandRoutes_of_given back given]
    exact ⟨iff_of_false (by simp) back, iff_of_false (by simp) fun other => missing other.2,
      fun _ _ => ⟨_, rfl, .of_substitutes substitutes_expandRoute back⟩⟩

/-- Placeholders among the routes that are taken over stay, and a route back is refused. -/
theorem expandRoutes_outcome_detour :
    (∃ routes, expandRoutes [.placeholder, .leave] [.toNode "next", .placeholder] false "here" true =
        .ok routes ∧
      Expanded [.placeholder, .leave] [.toNode "next", .placeholder] false "here" routes) ∧
    expandRoutes [.placeholder] [.toNode "here"] false "here" true =
      .error (.routing (.cycle "here") (.node "here")) := by
  have away : ¬ LeadsBack [.placeholder, .leave] [.toNode "next", .placeholder] "here" := by
    simp [LeadsBack, Route.placeholder, Route.toNode, Route.leave, placeholderTarget]
  have back : LeadsBack [.placeholder] [.toNode "here"] "here" :=
    .inr ⟨⟨_, .head _, rfl⟩, _, .head _, rfl⟩
  exact ⟨(expandRoutes_outcome _ _ _ _ _).2.2 (fun other => away other.2)
      (fun other => absurd (other.2 .placeholder (.head _)) (by decide)),
    (expandRoutes_outcome _ _ _ _ _).1.mpr ⟨rfl, back⟩⟩

end StepFlow
