import StepFlow.Files.Tree
import StepFlow.Proofs.Outcome

/-! What a change of files does, part by part. Main statements: a chain of changes succeeds
exactly if its parts do one after another, and it fails exactly as one of them does. -/
namespace StepFlow.Change

variable {α β : Type} {x : Change α} {f : α → Change β} {files after : Files} {a : α} {b : β}
  {failure : Failure} {step : Files → Except FileFault Files}

/-- The result of a change, and the files that it leaves. -/
def outcome (change : Change α) (files : Files) : Except Failure α × Files :=
  change.run files

theorem outcome_bind : (x >>= f).outcome files = match x.outcome files with
    | (.ok a, middle) => (f a).outcome middle
    | (.error failure, middle) => (.error failure, middle) := by
  rcases done : x.outcome files with ⟨_ | a, middle⟩
  · exact Outcome.runFrom_bind_of_error done
  · exact Outcome.runFrom_bind_of_ok done

theorem bind_eq_ok : (x >>= f).outcome files = (.ok b, after) ↔
    ∃ a middle, x.outcome files = (.ok a, middle) ∧ (f a).outcome middle = (.ok b, after) :=
  Outcome.runFrom_bind_eq_ok

theorem bind_eq_error : (x >>= f).outcome files = (.error failure, after) ↔
    x.outcome files = (.error failure, after) ∨
      ∃ a middle, x.outcome files = (.ok a, middle) ∧
        (f a).outcome middle = (.error failure, after) := by
  rw [outcome_bind]
  rcases x.outcome files with ⟨_ | a, middle⟩
  · simp
  · simp only [Prod.mk.injEq, reduceCtorEq, false_and, false_or, Except.ok.injEq]
    constructor
    · intro rest
      exact ⟨a, middle, ⟨rfl, rfl⟩, rest⟩
    · rintro ⟨_, _, ⟨rfl, rfl⟩, rest⟩
      exact rest

theorem outcome_tryCatch {handler : Failure → Change α} :
    (tryCatch x handler).outcome files = match x.outcome files with
      | (.ok a, middle) => (.ok a, middle)
      | (.error failure, middle) => (handler failure).outcome middle := by
  simp only [outcome, ExceptT.run, tryCatch, tryCatchThe, MonadExceptOf.tryCatch, ExceptT.tryCatch,
    ExceptT.mk, bind, StateT.bind]
  rcases x files with ⟨_ | a, middle⟩
  · rfl
  · rfl

@[simp] theorem outcome_pure : (pure a : Change α).outcome files = (.ok a, files) := rfl

@[simp] theorem outcome_throw : (throw failure : Change α).outcome files = (.error failure, files) := rfl

@[simp] theorem outcome_get_bind {f : Files → Change β} :
    (get >>= f).outcome files = (f files).outcome files := rfl

@[simp] theorem outcome_set : (set after : Change PUnit).outcome files = (.ok ⟨⟩, after) := rfl

@[simp] theorem outcome_ofResult {result : Except Failure α} :
    (ofResult result).outcome files = (result, files) := by
  cases result with
  | ok => rfl
  | error => rfl

@[simp] theorem outcome_ask {look : Files → Except FileFault α} :
    (ask look).outcome files = ((look files).mapError .file, files) := by
  rw [ask, outcome_get_bind, outcome_ofResult]

theorem act_eq_ok : (act step).outcome files = (.ok (), after) ↔ step files = .ok after := by
  rw [act, outcome_bind, outcome_ask]
  cases step files with
  | ok => simp [Except.mapError]
  | error => simp [Except.mapError]

/-- A step that fails changes nothing. -/
theorem files_of_act_error (failed : (act step).outcome files = (.error failure, after)) :
    after = files := by
  rw [act, outcome_bind, outcome_ask] at failed
  cases done : step files with
  | ok middle =>
    rw [done] at failed
    exact nomatch congrArg Prod.fst failed
  | error fault =>
    rw [done] at failed
    exact (congrArg Prod.snd failed).symm

theorem exists_of_isOk (done : (x.outcome files).1.isOk = true) :
    ∃ a, x.outcome files = (.ok a, (x.outcome files).2) := by
  rcases result : x.outcome files with ⟨_ | a, after⟩
  · rw [result] at done
    exact absurd done Bool.false_ne_true
  · exact ⟨a, rfl⟩

/-! ### Failures -/

/-- Only files are to blame if the change fails. -/
def FailsOnFiles (x : Change α) : Prop :=
  ∀ files failure after, x.outcome files = (.error failure, after) → ∃ fault, failure = .file fault

theorem FailsOnFiles.bind (first : x.FailsOnFiles) (rest : ∀ a, (f a).FailsOnFiles) :
    (x >>= f).FailsOnFiles := by
  intro files failure after failed
  rcases bind_eq_error.mp failed with here | ⟨a, middle, -, later⟩
  · exact first files failure after here
  · exact rest a middle failure after later

theorem FailsOnFiles.tryCatch {handler : Failure → Change α} (first : x.FailsOnFiles)
    (rest : ∀ fault, (handler (.file fault)).FailsOnFiles) : (tryCatch x handler).FailsOnFiles := by
  intro files failure after failed
  rw [outcome_tryCatch] at failed
  rcases tried : x.outcome files with ⟨other | a, middle⟩
  · obtain ⟨fault, rfl⟩ := first files other middle tried
    rw [tried] at failed
    exact rest fault middle failure after failed
  · rw [tried] at failed
    exact nomatch congrArg Prod.fst failed

theorem failsOnFiles_get_bind {f : Files → Change β} (rest : ∀ files, (f files).FailsOnFiles) :
    (get >>= f).FailsOnFiles :=
  fun files failure after failed => rest files files failure after failed

theorem failsOnFiles_pure {a : α} : (pure a : Change α).FailsOnFiles :=
  fun _ _ _ failed => nomatch congrArg Prod.fst failed

theorem failsOnFiles_throw {fault : FileFault} : (throw (.file fault) : Change α).FailsOnFiles :=
  fun _ _ _ failed => ⟨fault, (Except.error.inj (congrArg Prod.fst failed)).symm⟩

theorem failsOnFiles_set : (set files : Change PUnit).FailsOnFiles :=
  fun _ _ _ failed => nomatch congrArg Prod.fst failed

theorem failsOnFiles_ask {look : Files → Except FileFault α} : (ask look).FailsOnFiles := by
  intro files failure after failed
  rw [outcome_ask] at failed
  cases looked : look files with
  | ok a => simp [looked, Except.mapError] at failed
  | error fault =>
    rw [looked] at failed
    exact ⟨fault, (Except.error.inj (congrArg Prod.fst failed)).symm⟩

theorem failsOnFiles_act {step : Files → Except FileFault Files} : (act step).FailsOnFiles :=
  failsOnFiles_ask.bind fun _ => failsOnFiles_set

end StepFlow.Change
