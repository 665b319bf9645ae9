import StepFlow.Flow.Route

/-! Routes that give way to others in their places. Main statement: what comes of a list of
routes is settled by the routes that are picked and those that take their place, and its
routes can be counted in both. -/
namespace StepFlow

/-- Every route that is picked gives way to the whole filling; all others stay. -/
inductive Substitutes (picks : Route → Bool) (filling : List Route) :
    List Route → List Route → Prop where
  | nil : Substitutes picks filling [] []
  | fill {route routes result} : picks route = true → Substitutes picks filling routes result →
      Substitutes picks filling (route :: routes) (filling ++ result)
  | keep {route routes result} : picks route = false → Substitutes picks filling routes result →
      Substitutes picks filling (route :: routes) (route :: result)

namespace Substitutes

variable {picks : Route → Bool} {filling routes result : List Route} {route : Route}

theorem flatMap (picks : Route → Bool) (filling routes : List Route) :
    Substitutes picks filling routes
      (routes.flatMap fun route => if picks route then filling else [route]) := by
  induction routes with
  | nil => exact .nil
  | cons route routes ih =>
    rw [List.flatMap_cons]
    cases picked : picks route with
    | true => exact .fill picked ih
    | false => exact .keep picked ih

theorem eq_flatMap (done : Substitutes picks filling routes result) :
    result = routes.flatMap fun route => if picks route then filling else [route] := by
  induction done with
  | nil => rfl
  | fill picked _ ih => rw [List.flatMap_cons, if_pos picked, ← ih]
  | keep left _ ih => rw [List.flatMap_cons, if_neg (by simp [left]), ← ih, List.singleton_append]

theorem mem_iff (done : Substitutes picks filling routes result) : route ∈ result ↔
    (route ∈ routes ∧ picks route = false) ∨ (route ∈ filling ∧ ∃ cut ∈ routes, picks cut = true) := by
  rw [done.eq_flatMap, List.mem_flatMap]
  constructor
  · rintro ⟨cut, member, placed⟩
    split at placed
    · rename_i picked
      exact .inr ⟨placed, cut, member, picked⟩
    · rename_i left
      obtain rfl := List.mem_singleton.mp placed
      exact .inl ⟨member, Bool.eq_false_iff.mpr left⟩
  · rintro (⟨member, left⟩ | ⟨placed, cut, member, picked⟩)
    · exact ⟨route, member, by simp [left]⟩
    · exact ⟨cut, member, by simpa [picked] using placed⟩

/-- The routes that stay are counted once, and those of the filling once for each picked route. -/
theorem countP_eq (done : Substitutes picks filling routes result) (counts : Route → Bool) :
    result.countP counts = routes.countP (fun route => !picks route && counts route) +
      routes.countP picks * filling.countP counts := by
  induction done with
  | nil => simp
  | fill picked _ ih =>
    rw [List.countP_append, ih, List.countP_cons, List.countP_cons]
    simp only [picked, Bool.not_true, Bool.false_and, Bool.false_eq_true, if_false, if_true,
      Nat.add_zero, Nat.succ_mul]
    omega
  | keep left _ ih =>
    rw [List.countP_cons, ih, List.countP_cons, List.countP_cons]
    simp only [left, Bool.not_false, Bool.true_and, Bool.false_eq_true, if_false, Nat.add_zero]
    omega

theorem length_eq (done : Substitutes picks filling routes result) :
    result.length = routes.countP (fun route => !picks route) +
      routes.countP picks * filling.length := by
  simpa using done.countP_eq fun _ => true

end Substitutes

end StepFlow
