import Mathlib.Data.List.Forall2

/-! Operations that may fail: what the success of a whole says about its parts, and when two of them
can be done in either order. -/
namespace StepFlow.Outcome

variable {α β ε δ : Type}

instance decEqExcept [DecidableEq ε] [DecidableEq α] : DecidableEq (Except ε α)
  | .ok a, .ok b => decidable_of_iff (a = b) (by simp)
  | .error a, .error b => decidable_of_iff (a = b) (by simp)
  | .ok _, .error _ | .error _, .ok _ => .isFalse (by simp)

theorem bind_eq_ok {x : Except ε α} {f : α → Except ε β} {b : β} :
    (x >>= f) = .ok b ↔ ∃ a, x = .ok a ∧ f a = .ok b := by
  cases x <;> simp [bind, Except.bind]

theorem pure_eq_ok {a b : α} : (pure a : Except ε α) = .ok b ↔ a = b := by
  simp [pure, Except.pure]

theorem throw_ne_ok {a : α} {e : ε} : (throw e : Except ε α) ≠ .ok a :=
  nofun

theorem map_eq_ok {x : Except ε α} {f : α → β} {b : β} : x.map f = .ok b ↔ ∃ a, x = .ok a ∧ f a = b := by
  cases x <;> simp [Except.map]

theorem map_eq_error {x : Except ε α} {f : α → β} {e : ε} : x.map f = .error e ↔ x = .error e := by
  cases x <;> simp [Except.map]

theorem mapError_eq_ok {x : Except ε α} {f : ε → δ} {a : α} :
    x.mapError f = .ok a ↔ x = .ok a := by
  cases x <;> simp [Except.mapError]

theorem mapError_eq_error {x : Except ε α} {f : ε → δ} {d : δ} :
    x.mapError f = .error d ↔ ∃ e, x = .error e ∧ f e = d := by
  cases x <;> simp [Except.mapError]

/-- A list of operations succeeds if each of them does. -/
theorem mapM_eq_ok {f : α → Except ε β} {xs : List α} {ys : List β} :
    xs.mapM f = .ok ys ↔ List.Forall₂ (fun x y => f x = .ok y) xs ys := by
  induction xs generalizing ys with
  | nil => rw [List.mapM_nil, pure_eq_ok, List.forall₂_nil_left_iff, eq_comm]
  | cons x xs ih =>
    simp only [List.mapM_cons, bind_eq_ok, pure_eq_ok, ih, List.forall₂_cons_left_iff]
    constructor
    · rintro ⟨y, first, rest, others, rfl⟩
      exact ⟨y, rest, first, others, rfl⟩
    · rintro ⟨y, rest, first, others, rfl⟩
      exact ⟨y, first, rest, others, rfl⟩

theorem exists_mapM_iff {f : α → Except ε β} {xs : List α} :
    (∃ ys, xs.mapM f = .ok ys) ↔ ∀ x ∈ xs, ∃ y, f x = .ok y := by
  induction xs with
  | nil => simp [pure_eq_ok]
  | cons x xs ih =>
    simp only [List.mapM_cons, bind_eq_ok, pure_eq_ok, List.forall_mem_cons, ← ih]
    constructor
    · rintro ⟨-, y, first, ys, rest, -⟩
      exact ⟨⟨y, first⟩, ys, rest⟩
    · rintro ⟨⟨y, first⟩, ys, rest⟩
      exact ⟨y :: ys, y, first, ys, rest, rfl⟩

/-- Operations on the same list whose results go together. -/
theorem exists_mapM_of_imp {γ : Type} {f : α → Except ε β} {g : α → Except ε γ} {xs : List α}
    {ys : List β} {together : β → γ → Prop} (succeeds : xs.mapM f = .ok ys)
    (imp : ∀ x ∈ xs, ∀ y, f x = .ok y → ∃ z, g x = .ok z ∧ together y z) :
    ∃ zs, xs.mapM g = .ok zs ∧ List.Forall₂ together ys zs := by
  induction mapM_eq_ok.mp succeeds with
  | nil => exact ⟨[], rfl, .nil⟩
  | cons first rest ih =>
    obtain ⟨z, done, goes⟩ := imp _ (.head _) _ first
    obtain ⟨zs, others, go⟩ := ih (mapM_eq_ok.mpr rest) fun x later => imp x (.tail _ later)
    exact ⟨z :: zs, mapM_eq_ok.mpr (.cons done (mapM_eq_ok.mp others)), .cons goes go⟩

theorem exists_of_mem_mapM {f : α → Except ε β} {xs : List α} {ys : List β} {y : β}
    (succeeds : xs.mapM f = .ok ys) (member : y ∈ ys) : ∃ x ∈ xs, f x = .ok y := by
  induction mapM_eq_ok.mp succeeds with
  | nil => contradiction
  | cons first rest ih =>
    rcases List.mem_cons.mp member with rfl | later
    · exact ⟨_, .head _, first⟩
    · obtain ⟨x, isSource, done⟩ := ih (mapM_eq_ok.mpr rest) later
      exact ⟨x, .tail _ isSource, done⟩

/-- A list of operations fails as the first of them that does. -/
theorem mapM_eq_error_iff {f : α → Except ε β} {xs : List α} {e : ε} :
    xs.mapM f = .error e ↔ ∃ before x after, xs = before ++ x :: after ∧
      (∀ earlier ∈ before, ∃ y, f earlier = .ok y) ∧ f x = .error e := by
  constructor
  · intro fails
    induction xs with
    | nil => cases fails
    | cons x xs ih =>
      rw [List.mapM_cons] at fails
      cases first : f x with
      | error other =>
        rw [first] at fails
        exact ⟨[], x, xs, rfl, nofun, first.trans (congrArg Except.error (Except.error.inj fails))⟩
      | ok y =>
        rw [first] at fails
        cases rest : xs.mapM f with
        | error other =>
          rw [rest] at fails
          obtain ⟨before, later, after, rfl, succeed, failed⟩ :=
            ih (rest.trans (congrArg Except.error (Except.error.inj fails)))
          exact ⟨x :: before, later, after, rfl, List.forall_mem_cons.mpr ⟨⟨y, first⟩, succeed⟩, failed⟩
        | ok ys =>
          rw [rest] at fails
          cases fails
  · rintro ⟨before, x, after, rfl, succeed, failed⟩
    obtain ⟨ys, done⟩ := exists_mapM_iff.mpr succeed
    rw [List.mapM_append, done, List.mapM_cons, failed]
    rfl

theorem exists_of_mapM_error {f : α → Except ε β} {xs : List α} {e : ε}
    (fails : xs.mapM f = .error e) : ∃ x ∈ xs, f x = .error e := by
  obtain ⟨before, x, after, rfl, -, failed⟩ := mapM_eq_error_iff.mp fails
  exact ⟨x, by simp, failed⟩

/-! ### Operations in either order -/

/-- Both fail, with whatever failures, or both come to the same. -/
inductive Concur : Except ε α → Except ε α → Prop where
  | fail (e d : ε) : Concur (.error e) (.error d)
  | succeed (a : α) : Concur (.ok a) (.ok a)

theorem concur_iff {x y : Except ε α} : Concur x y ↔ ∀ a, x = .ok a ↔ y = .ok a := by
  constructor
  · rintro ⟨⟩ <;> simp
  · intro same
    cases x with
    | ok a =>
      rw [(same a).mp rfl]
      exact .succeed a
    | error e =>
      cases y with
      | ok b => cases (same b).mpr rfl
      | error d => exact .fail e d

/-- Operations concur in either order if neither bears on whether the other succeeds, and the
order makes no difference to where they lead. -/
theorem Concur.bind {γ : Type} {x : Except ε α} {y : Except ε β} {f : α → Except ε γ} {g : β → Except ε γ}
    (spares : ∀ a, x = .ok a → ((∃ c, f a = .ok c) ↔ ∃ b, y = .ok b))
    (spared : ∀ b, y = .ok b → ((∃ c, g b = .ok c) ↔ ∃ a, x = .ok a))
    (agree : ∀ a b c d, x = .ok a → y = .ok b → f a = .ok c → g b = .ok d → c = d) :
    Concur (x >>= f) (y >>= g) := by
  refine concur_iff.mpr fun result => ?_
  simp only [bind_eq_ok]
  constructor
  · rintro ⟨a, first, second⟩
    obtain ⟨b, alone⟩ := (spares a first).mp ⟨result, second⟩
    obtain ⟨other, after⟩ := (spared b alone).mpr ⟨a, first⟩
    obtain rfl := agree a b result other first alone second after
    exact ⟨b, alone, after⟩
  · rintro ⟨b, first, second⟩
    obtain ⟨a, alone⟩ := (spared b first).mp ⟨result, second⟩
    obtain ⟨other, after⟩ := (spares a alone).mpr ⟨b, first⟩
    obtain rfl := agree a b other result alone first after second
    exact ⟨a, alone, after⟩

/-! ### Operations that also change a state -/

section

variable {σ : Type} {x : ExceptT ε (StateM σ) α} {f : α → ExceptT ε (StateM σ) β} {a : α} {b : β}
  {s t : σ}

/-- The result of an operation, and the state that it leaves. -/
def runFrom (x : ExceptT ε (StateM σ) α) (s : σ) : Except ε α × σ :=
  x.run s

theorem runFrom_bind_of_ok (done : runFrom x s = (.ok a, t)) : runFrom (x >>= f) s = runFrom (f a) t := by
  change (match runFrom x s with
    | (result, middle) => (ExceptT.bindCont f result : StateM σ _) middle) = _
  rw [done]
  rfl

theorem runFrom_bind_of_error {e : ε} (failed : runFrom x s = (.error e, t)) :
    runFrom (x >>= f) s = (.error e, t) := by
  change (match runFrom x s with
    | (result, middle) => (ExceptT.bindCont f result : StateM σ _) middle) = _
  rw [failed]
  rfl

theorem runFrom_bind_eq_ok : runFrom (x >>= f) s = (.ok b, t) ↔
    ∃ a middle, runFrom x s = (.ok a, middle) ∧ runFrom (f a) middle = (.ok b, t) := by
  constructor
  · intro whole
    rcases done : runFrom x s with ⟨_ | a, middle⟩
    · cases (runFrom_bind_of_error done).symm.trans whole
    · exact ⟨a, middle, rfl, (runFrom_bind_of_ok done).symm.trans whole⟩
  · rintro ⟨a, middle, done, rest⟩
    exact (runFrom_bind_of_ok done).trans rest

end

end StepFlow.Outcome
