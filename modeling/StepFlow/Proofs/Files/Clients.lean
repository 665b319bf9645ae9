import Mathlib.Data.List.Induction
import StepFlow.Proofs.Files.Versions

/-! Several clients and others at work on one file. Each client remembers the version that it last
got from reading or saving, and saves over that one only; whole operations follow each other in
any order. Main statement: nothing is overwritten that the one who saves has not seen. -/
namespace StepFlow

open Outcome Files

variable {Client : Type}

/-- What is done to the file: a client reads or saves, or somebody else leaves other files. A client
may save in another execution each time. -/
inductive Deed (Client : Type) where
  | read (client : Client)
  | save (client : Client) (graph : Graph) (keepBackup : Bool) (running : Execution)
  | outside (later : Files)

/-- The client that a deed is of. -/
def Deed.client? : Deed Client → Option Client
  | read client => some client
  | save client _ _ _ => some client
  | outside _ => none

/-- The files, and the version that each client has seen last. -/
structure Situation (Client : Type) where
  files : Files
  seen : Client → Option String

namespace Situation

section

variable [Installation] {path : Path} {now later : Situation Client} {client other : Client} {deed : Deed Client}
  {deeds : List (Deed Client)} {graph next : Graph} {keepBackup keepNext : Bool}
  {version seen : String} {files after : Files} {failure : Failure}

/-- What a save of a client comes to. -/
def attempt [Execution] (path : Path) (now : Situation Client) (client : Client) (graph : Graph)
    (keepBackup : Bool) : Except Failure String × Files :=
  (Change.saveFlow path graph (now.seen client) keepBackup).outcome now.files

/-! ### Saving over a version -/

/-- A save over a version finds that version, or no file. -/
theorem held_of_attempt [Execution] (sees : now.seen client = some seen)
    (saved : now.attempt path client graph keepBackup = (.ok version, after)) :
    now.files.look? path = .ok none ∨
      ∃ content, now.files.read path = .ok content ∧ Digest.text content = seen := by
  rcases (Change.saveFlow_eq_ok saved).1 seen sees with gone | held
  · exact .inl (version?_eq_ok_none_iff.mp gone)
  · obtain ⟨content, read, known⟩ := version?_eq_ok_some_iff.mp held
    exact .inr ⟨content, read, known.symm⟩

/-- A save that is refused for the version or for the graph changes nothing. -/
theorem files_of_attempt [Execution] (refused : now.attempt path client graph keepBackup = (.error failure, after))
    (cause : failure.IsConflict ∨ graph.confirm = .error failure) : after = now.files := by
  rcases cause with conflict | unconfirmed
  · exact (Change.saveFlow_eq_conflict conflict refused).1
  · rw [attempt, Change.saveFlow_of_confirm_error unconfirmed] at refused
    exact (congrArg Prod.snd refused).symm

/-- Over another version than the one it has seen a client cannot save. -/
theorem attempt_of_version? [Execution] (sees : now.seen client = some seen)
    (held : now.files.version? path = .ok (some version)) (differ : version ≠ seen) :
    ∃ failure, now.attempt path client graph keepBackup = (.error failure, now.files) ∧
      (failure = .flow (.changed path.text seen version) ∨ graph.confirm = .error failure) := by
  cases confirmed : graph.confirm with
  | error failure => exact ⟨failure, Change.saveFlow_of_confirm_error confirmed, .inr rfl⟩
  | ok reread =>
    refine ⟨_, ?_, .inl rfl⟩
    rw [attempt, sees, Change.saveFlow_of_confirm confirmed, Change.saveConfirmed, Change.outcome_bind]
    rcases Change.outcome_requireVersion now.files path (some seen) with
      ⟨holds, -⟩ | ⟨_, actual, isSeen, isActual, -, done⟩ | ⟨_, _, -, fails, -⟩
    · rcases holds seen rfl with gone | same
      · cases held.symm.trans gone
      · exact absurd (Option.some.inj (Except.ok.inj (held.symm.trans same))) differ
    · obtain rfl := Option.some.inj isSeen
      obtain rfl := Option.some.inj (Except.ok.inj (held.symm.trans isActual))
      rw [done]
    · cases held.symm.trans fails

/-! ### Deeds one after another -/

variable [DecidableEq Client]

/-- Nobody has seen anything yet. -/
def fresh (files : Files) : Situation Client :=
  ⟨files, fun _ => none⟩

def note (now : Situation Client) (client : Client) (version : String) : Situation Client :=
  { now with seen := fun other => if other = client then some version else now.seen other }

def step (path : Path) (now : Situation Client) : Deed Client → Situation Client
  | .read client =>
    match now.files.readFlow path with
    | .ok (_, version) => now.note client version
    | .error _ => now
  | .save client graph keepBackup _ =>
    match now.attempt path client graph keepBackup with
    | (.ok version, files) => note { now with files } client version
    | (.error _, files) => { now with files }
  | .outside files => { now with files }

def run (path : Path) (start : Situation Client) (deeds : List (Deed Client)) : Situation Client :=
  deeds.foldl (step path) start

theorem run_concat : run path now (deeds ++ [deed]) = (run path now deeds).step path deed := by
  rw [run, List.foldl_concat]
  rfl

/-! ### What a client has seen -/

omit [Installation] in
theorem seen_note : (now.note other version).seen client =
    if client = other then some version else now.seen client := rfl

/-- A client keeps in mind what it has seen, unless it sees what is there now. -/
theorem seen_step (sees : (now.step path deed).seen client = some seen) :
    now.seen client = some seen ∨ now.files.version? path = .ok (some seen) ∨
      (now.step path deed).files.version? path = .ok (some seen) := by
  cases deed with
  | read reader =>
    simp only [step] at sees
    cases read : now.files.readFlow path with
    | error => exact .inl (by simpa only [read] using sees)
    | ok found =>
      simp only [read, seen_note] at sees
      split at sees
      · rw [← sees]
        exact .inr (.inl (version?_of_readFlow read))
      · exact .inl sees
  | save writer graph keepBackup running =>
    simp only [step] at sees ⊢
    rcases saved : now.attempt path writer graph keepBackup with ⟨_ | version, after⟩
    · exact .inl (by simpa only [saved] using sees)
    · simp only [saved, seen_note] at sees ⊢
      split at sees
      · rw [← sees]
        exact .inr (.inr (Change.version?_of_saveFlow saved))
      · exact .inl sees
  | outside files => exact .inl sees

/-- What a client has seen was there at some moment. -/
theorem exists_version?_of_seen
    (sees : (run path (fresh files : Situation Client) deeds).seen client = some seen) :
    ∃ before : List (Deed Client), before <+: deeds ∧
      (run path (fresh files) before).files.version? path = .ok (some seen) := by
  induction deeds using List.reverseRecOn with
  | nil => cases sees
  | append_singleton deeds deed ih =>
    have whole : deeds <+: deeds ++ [deed] := List.prefix_append _ _
    rw [run_concat] at sees
    rcases seen_step sees with earlier | here | afterwards
    · obtain ⟨before, isPrefix, held⟩ := ih earlier
      exact ⟨before, isPrefix.trans whole, held⟩
    · exact ⟨deeds, whole, here⟩
    · rw [← run_concat] at afterwards
      exact ⟨deeds ++ [deed], List.prefix_rfl, afterwards⟩

/-- Nobody else changes what a client has in mind. -/
theorem seen_step_of_other (apart : deed.client? ≠ some client) :
    (now.step path deed).seen client = now.seen client := by
  cases deed with
  | read reader =>
    have differ : client ≠ reader := fun same => apart (congrArg some same.symm)
    simp only [step]
    cases now.files.readFlow path with
    | error => rfl
    | ok found => rw [seen_note, if_neg differ]
  | save writer graph keepBackup running =>
    have differ : client ≠ writer := fun same => apart (congrArg some same.symm)
    simp only [step]
    rcases now.attempt path writer graph keepBackup with ⟨_ | version, after⟩
    · rfl
    · rw [seen_note, if_neg differ]
  | outside files => rfl

theorem seen_run_of_others (apart : ∀ deed ∈ deeds, deed.client? ≠ some client) :
    (run path now deeds).seen client = now.seen client := by
  induction deeds using List.reverseRecOn with
  | nil => rfl
  | append_singleton deeds deed ih =>
    rw [run_concat, seen_step_of_other (apart deed (by simp))]
    exact ih fun other member => apart other (List.mem_append_left _ member)

/-- Nothing is overwritten unseen: a save succeeds over the version its client has seen or over no
file, one that is refused changes nothing, and of two clients that have seen the same version the
one who saves later is refused. -/
theorem no_silent_overwrite (path : Path) (start : Files) (deeds : List (Deed Client)) :
    let now := run path (fresh start) deeds
    (∀ (_ : Execution) client seen graph keepBackup version after, now.seen client = some seen →
      now.attempt path client graph keepBackup = (.ok version, after) →
        now.files.look? path = .ok none ∨
          ∃ content, now.files.read path = .ok content ∧ Digest.text content = seen) ∧
    (∀ client seen, now.seen client = some seen → ∃ before : List (Deed Client), before <+: deeds ∧
      ∃ content, (run path (fresh start) before).files.read path = .ok content ∧
        Digest.text content = seen) ∧
    (∀ (_ : Execution) client graph keepBackup failure after,
      now.attempt path client graph keepBackup = (.error failure, after) →
        failure.IsConflict ∨ graph.confirm = .error failure → after = now.files) ∧
    ∀ (running : Execution) first second seen graph keepBackup version after, first ≠ second →
      now.seen first = some seen → now.seen second = some seen →
      now.attempt path first graph keepBackup = (.ok version, after) → version ≠ seen →
      ∀ between : List (Deed Client), (∀ deed ∈ between, deed.client? ≠ some second) →
        let later := run path (now.step path (.save first graph keepBackup running)) between
        later.files.read path = after.read path →
        ∀ (_ : Execution) next keepNext, ∃ failure,
          later.attempt path second next keepNext = (.error failure, later.files) ∧
            (failure = .flow (.changed path.text seen version) ∨ next.confirm = .error failure) := by
  intro now
  refine ⟨fun _ _ _ _ _ _ _ sees saved => held_of_attempt sees saved, fun client seen sees => ?_,
    fun _ _ _ _ _ _ refused cause => files_of_attempt refused cause, ?_⟩
  · obtain ⟨before, isPrefix, held⟩ := exists_version?_of_seen sees
    obtain ⟨content, read, known⟩ := version?_eq_ok_some_iff.mp held
    exact ⟨before, isPrefix, content, read, known.symm⟩
  · intro running first second seen graph keepBackup version after apart _ sees saved differ between
      others later untouched
    have written : after.version? path = .ok (some version) := Change.version?_of_saveFlow saved
    intro another next keepNext
    have sees : later.seen second = some seen := by
      have notSecond : (Deed.save first graph keepBackup running).client? ≠ some second :=
        fun same => apart (Option.some.inj same)
      rw [seen_run_of_others others, seen_step_of_other notSecond, sees]
    have held : later.files.version? path = .ok (some version) := by
      obtain ⟨content, read, known⟩ := version?_eq_ok_some_iff.mp written
      exact version?_eq_ok_some_iff.mpr ⟨content, untouched.trans read, known⟩
    exact attempt_of_version? sees held differ

theorem run_read_read (read : (files.readFlow path).map Prod.snd = .ok version) :
    run path (fresh files) [.read true, .read false] = ⟨files, fun _ => some version⟩ := by
  cases found : files.readFlow path with
  | error => simp [found, Except.map] at read
  | ok result =>
    simp only [found, Except.map, Except.ok.injEq] at read
    simp only [run, List.foldl_cons, List.foldl_nil, step, fresh, note, found, read, mk.injEq, true_and]
    funext client
    cases client with
    | true => simp
    | false => simp

end

attribute [local instance] Installation.usual Execution.usual

/-- A flow without steps. -/
def blankContent : ByteArray := "id: blank\ntype: messaging\nnodes: {}\n".toUTF8

def blankDesk : Files := ⟨[(["flow.ygtc"], .file blankContent)]⟩

theorem readFlow_blankDesk : (blankDesk.readFlow Change.flowPath).map Prod.snd =
    .ok (Digest.text blankContent) := by
  decide +kernel

theorem saveConfirmed_blankDesk :
    ((Change.saveConfirmed Change.flowPath Change.greeting (some (Digest.text blankContent)) true).outcome
      blankDesk).1.isOk = true := by
  decide +kernel

theorem text_blankContent_ne :
    Digest.text Change.greeting.render.toUTF8 ≠ Digest.text blankContent := by
  decide +kernel

/-- Both clients read, the first one saves, and the second one is refused. -/
theorem no_silent_overwrite_blankDesk :
    let now := run Change.flowPath (fresh blankDesk) [.read true, .read false]
    let later := now.step Change.flowPath (.save true Change.greeting true .usual)
    now.seen true = some (Digest.text blankContent) ∧
      now.seen false = some (Digest.text blankContent) ∧
      later.seen true = some (Digest.text Change.greeting.render.toUTF8) ∧
      later.attempt Change.flowPath false Change.greeting true =
        (.error (.flow (.changed Change.flowPath.text (Digest.text blankContent)
          (Digest.text Change.greeting.render.toUTF8))), later.files) := by
  have start := run_read_read readFlow_blankDesk
  have done := saveConfirmed_blankDesk
  rw [← Change.saveFlow_greeting] at done
  have differ := text_blankContent_ne
  have confirmed := Change.isOk_confirm_greeting
  -- what was computed is all that counts from here on
  generalize blankDesk = files, Digest.text blankContent = seen, Change.greeting = graph,
    Change.flowPath = path at *
  obtain ⟨version, saved⟩ := Change.exists_of_isOk done
  have known := (Change.saveFlow_eq_ok saved).2.2.2
  have attempted : (run path (fresh files) [.read true, .read false]).attempt path true graph true =
      (.ok version, ((Change.saveFlow path graph (some seen) true).outcome files).2) := by
    rw [start]
    exact saved
  obtain ⟨-, -, -, refuses⟩ := no_silent_overwrite path files [Deed.read true, Deed.read false]
  have sequel : (run path (fresh files) [.read true, .read false]).step path (.save true graph true .usual) =
      note ⟨((Change.saveFlow path graph (some seen) true).outcome files).2, fun _ => some seen⟩
        true version := by
    simp only [step, attempted]
    rw [start]
  obtain ⟨failure, refused, cause⟩ := refuses .usual true false seen graph true version _ (by decide)
    (by rw [start]) (by rw [start]) attempted (known ▸ differ) [] (by simp)
    (congrArg (fun later => later.files.read path) sequel) .usual graph true
  refine ⟨by rw [start], by rw [start], ?_, ?_⟩
  · rw [sequel, seen_note, if_pos rfl, known]
  · rcases cause with rfl | unconfirmed
    · rw [← known]
      exact refused
    · rw [unconfirmed] at confirmed
      exact absurd confirmed Bool.false_ne_true

end Situation

end StepFlow
