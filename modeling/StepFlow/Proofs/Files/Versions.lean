import StepFlow.Proofs.Document.Acceptance
import StepFlow.Proofs.Files.Saving

/-! What is seen of a saved graph. Main statement: the next reading gives the graph as it was
confirmed, with the version that saving answered; the copy holds what was replaced, and no other
file has changed. -/
namespace StepFlow

open Outcome Files

/-! ### Conflicts -/

/-- The failure says that a file has been changed. -/
def Failure.IsConflict (failure : Failure) : Prop :=
  ∃ path expected actual, failure = .flow (.changed path expected actual)

/-- If the operation fails, then not for a changed file. -/
def MeetsNoConflict {α : Type} (result : Except Failure α) : Prop :=
  ∀ failure, result = .error failure → ¬ failure.IsConflict

section

variable {α β : Type} {x : Except Failure α} {f : α → Except Failure β} {failure : Failure}

theorem meetsNoConflict_ok {a : α} : MeetsNoConflict (.ok a) :=
  fun _ failed => nomatch failed

theorem meetsNoConflict_error (other : ¬ failure.IsConflict) :
    MeetsNoConflict (.error failure : Except Failure α) :=
  fun _ failed => Except.error.inj failed ▸ other

theorem MeetsNoConflict.bind (first : MeetsNoConflict x) (rest : ∀ a, MeetsNoConflict (f a)) :
    MeetsNoConflict (x >>= f) := by
  cases x with
  | error failure => exact meetsNoConflict_error (first failure rfl)
  | ok a => exact rest a

theorem meetsNoConflict_requireWritable {isWritable : Bool} :
    MeetsNoConflict (requireWritable isWritable) := by
  cases isWritable with
  | true => exact meetsNoConflict_ok
  | false => exact meetsNoConflict_error nofun

theorem ShapeFault.not_isConflict_onNode {fault : ShapeFault} {id : Scalar} :
    ¬ (fault.onNode id).IsConflict := by
  rw [onNode_eq]
  split
  · exact nofun
  · exact nofun

end

namespace Graph

variable {graph reread : Graph} {text label : String} {members : Members}

theorem meetsNoConflict_violations {value : Value} : MeetsNoConflict (Schema.violations value) :=
  meetsNoConflict_requireWritable.bind fun _ => meetsNoConflict_ok

theorem meetsNoConflict_dump [Installation] [Execution] : MeetsNoConflict graph.dump := by
  refine meetsNoConflict_requireWritable.bind fun _ => ?_
  split
  · exact meetsNoConflict_error nofun
  · exact meetsNoConflict_ok

theorem meetsNoConflict_ofChecked? : MeetsNoConflict (ofChecked? members label) := by
  unfold ofChecked?
  split
  · rename_i kept
    intro failure failed
    rw [Schema.violations_eq_ok_nil_iff] at kept
    rcases failure_of_kept kept failed with ⟨fault, id, rfl⟩ | rfl
    · exact ShapeFault.not_isConflict_onNode
    · exact nofun
  · exact meetsNoConflict_error nofun
  · rename_i failed
    exact meetsNoConflict_error (meetsNoConflict_violations _ failed)

variable [Installation]

theorem meetsNoConflict_parseDocument : MeetsNoConflict (parseDocument text label) := by
  unfold parseDocument
  split
  · exact meetsNoConflict_ok
  all_goals exact meetsNoConflict_error nofun

/-- What cannot be written and read again is not refused for a changed file. -/
theorem meetsNoConflict_confirm [Execution] : MeetsNoConflict graph.confirm :=
  meetsNoConflict_dump.bind fun _ => meetsNoConflict_parseDocument.bind fun _ =>
    meetsNoConflict_ofChecked?

end Graph

/-- A text that is read holds no half of a pair. -/
theorem Yaml.isWhole_of_read [Installation] {text : String} {value : Value}
    (read : Yaml.read text = .ok value) : Surrogate.isWhole text = true := by
  rw [Surrogate.isWhole, List.all_eq_true]
  intro c member
  unfold Yaml.read readFrom at read
  split at read
  · cases read
  · rename_i readable
    have isReadable := List.findIdx?_eq_none_iff.mp readable c member
    rw [Bool.not_eq_true', Bool.eq_false_iff]
    intro half
    obtain ⟨low, high⟩ := Surrogate.codeOf_of_isHalf half
    simp only [Yaml.isReadable, Bool.not_eq_false', Bool.or_eq_true, Bool.and_eq_true,
      decide_eq_true_eq] at isReadable
    omega

theorem Files.textOf_toUTF8 {text : String} (whole : Surrogate.isWhole text = true) :
    textOf text.toUTF8 = .ok text := by
  rw [textOf, Utf8.decode_toUTF8]
  simp [Except.mapError, bind, Except.bind, whole, pure, Except.pure]

/-- The version that is read with a graph is that of the file. -/
theorem Files.version?_of_readFlow [Installation] {files : Files} {path : Path} {graph : Graph} {version : String}
    (read : files.readFlow path = .ok (graph, version)) : files.version? path = .ok (some version) := by
  simp only [readFlow, bind_eq_ok, mapError_eq_ok, pure_eq_ok, Prod.mk.injEq] at read
  obtain ⟨-, -, content, read, -, -, -, -, -, known⟩ := read
  exact version?_eq_ok_some_iff.mpr ⟨content, read, known.symm⟩

namespace Change

variable {files after : Files} {path : Path} {graph : Graph} {expected : Option String}
  {version : String} {keepBackup : Bool} {failure : Failure} {content : ByteArray}

/-! ### The version that is expected -/

/-- The file is gone, or it holds the version that is expected. -/
def HoldsExpected (files : Files) (path : Path) (expected : Option String) : Prop :=
  ∀ seen ∈ expected, files.version? path = .ok none ∨ files.version? path = .ok (some seen)

/-- Looking for the version changes nothing, and only another version is a conflict. -/
theorem outcome_requireVersion (files : Files) (path : Path) (expected : Option String) :
    (HoldsExpected files path expected ∧
        (requireVersion path expected).outcome files = (.ok (), files)) ∨
      (∃ seen actual, expected = some seen ∧ files.version? path = .ok (some actual) ∧
        actual ≠ seen ∧ (requireVersion path expected).outcome files =
          (.error (.flow (.changed path.text seen actual)), files)) ∨
      ∃ seen fault, expected = some seen ∧ files.version? path = .error fault ∧
        (requireVersion path expected).outcome files = (.error (.file fault), files) := by
  cases expected with
  | none => exact .inl ⟨nofun, rfl⟩
  | some seen =>
    simp only [requireVersion, outcome_bind, outcome_ask]
    cases known : files.version? path with
    | error fault => exact .inr (.inr ⟨seen, fault, rfl, rfl, rfl⟩)
    | ok found =>
      cases found with
      | none => exact .inl ⟨fun _ _ => .inl known, rfl⟩
      | some actual =>
        by_cases same : actual = seen
        · refine .inl ⟨fun other isSeen => .inr ?_, by simp [Except.mapError, same]⟩
          rw [known, same, Option.some.inj isSeen]
        · exact .inr (.inl ⟨seen, actual, rfl, rfl, same, by simp [Except.mapError, same]⟩)

section

variable [Installation] [Execution]

/-! ### What a save comes to -/

theorem saveFlow_of_confirm_error (refused : graph.confirm = .error failure) :
    (saveFlow path graph expected keepBackup).outcome files = (.error failure, files) := by
  rw [saveFlow, outcome_bind, outcome_ofResult, refused]

/-- A save of what can be confirmed. -/
def saveConfirmed (path : Path) (graph : Graph) (expected : Option String) (keepBackup : Bool) :
    Change String := do
  requireVersion path expected
  replace path graph.render.toUTF8 keepBackup
  return Digest.text graph.render.toUTF8

theorem saveFlow_of_confirm {reread : Graph} (confirmed : graph.confirm = .ok reread) :
    (saveFlow path graph expected keepBackup).outcome files =
      (saveConfirmed path graph expected keepBackup).outcome files := by
  rw [saveFlow, outcome_bind, outcome_ofResult, confirmed]
  rfl

/-- A save that succeeds has found the version that it expected, and has replaced the file. -/
theorem saveFlow_eq_ok
    (saved : (saveFlow path graph expected keepBackup).outcome files = (.ok version, after)) :
    HoldsExpected files path expected ∧ (∃ reread, graph.confirm = .ok reread) ∧
      (replace path graph.render.toUTF8 keepBackup).outcome files = (.ok (), after) ∧
      version = Digest.text graph.render.toUTF8 := by
  obtain ⟨reread, middle, confirmed, rest⟩ := bind_eq_ok.mp saved
  rw [outcome_ofResult, Prod.mk.injEq] at confirmed
  obtain ⟨confirmed, rfl⟩ := confirmed
  obtain ⟨⟨⟩, middle, expectation, rest⟩ := bind_eq_ok.mp rest
  obtain ⟨⟨⟩, later, replaced, same⟩ := bind_eq_ok.mp rest
  rw [outcome_pure, Prod.mk.injEq, Except.ok.injEq] at same
  obtain ⟨rfl, rfl⟩ := same
  rcases outcome_requireVersion files path expected with
    ⟨holds, done⟩ | ⟨_, _, -, -, -, done⟩ | ⟨_, _, -, -, done⟩
  · obtain ⟨-, rfl⟩ := Prod.mk.inj (done.symm.trans expectation)
    exact ⟨holds, ⟨reread, confirmed⟩, replaced, rfl⟩
  · cases done.symm.trans expectation
  · cases done.symm.trans expectation

/-- A conflict leaves all files as they are, and there is one only where the path holds another
version than the one that is expected. -/
theorem saveFlow_eq_conflict (conflict : failure.IsConflict)
    (refused : (saveFlow path graph expected keepBackup).outcome files = (.error failure, after)) :
    after = files ∧ ∃ seen actual, expected = some seen ∧
      files.version? path = .ok (some actual) ∧ actual ≠ seen ∧
      failure = .flow (.changed path.text seen actual) := by
  rcases bind_eq_error.mp refused with unconfirmed | ⟨reread, middle, confirmed, rest⟩
  · rw [outcome_ofResult, Prod.mk.injEq] at unconfirmed
    exact absurd conflict (Graph.meetsNoConflict_confirm failure unconfirmed.1)
  rw [outcome_ofResult, Prod.mk.injEq] at confirmed
  obtain ⟨-, rfl⟩ := confirmed
  have noFileFault {fault : FileFault} : failure ≠ .file fault := by
    rintro rfl
    obtain ⟨_, _, _, same⟩ := conflict
    cases same
  rcases bind_eq_error.mp rest with unexpected | ⟨⟨⟩, middle, -, rest⟩
  · rcases outcome_requireVersion files path expected with
      ⟨-, done⟩ | ⟨seen, actual, isExpected, holds, differ, done⟩ | ⟨_, fault, -, -, done⟩
    · cases done.symm.trans unexpected
    · obtain ⟨same, rfl⟩ := Prod.mk.inj (done.symm.trans unexpected)
      exact ⟨rfl, seen, actual, isExpected, holds, differ, (Except.error.inj same).symm⟩
    · obtain ⟨same, -⟩ := Prod.mk.inj (done.symm.trans unexpected)
      exact absurd (Except.error.inj same).symm noFileFault
  · rcases bind_eq_error.mp rest with unreplaced | ⟨⟨⟩, later, -, done⟩
    · obtain ⟨fault, rfl⟩ := failsOnFiles_replace middle failure after unreplaced
      exact absurd rfl noFileFault
    · cases done

/-! ### What the next reading finds -/

variable (saved : (saveFlow path graph expected keepBackup).outcome files = (.ok version, after))

include saved

theorem read_of_saveFlow : after.read path = .ok graph.render.toUTF8 :=
  read_of_replace (saveFlow_eq_ok saved).2.2.1

theorem version?_of_saveFlow : after.version? path = .ok (some version) :=
  version?_eq_ok_some_iff.mpr ⟨_, read_of_saveFlow saved, (saveFlow_eq_ok saved).2.2.2⟩

/-- The graph that is read is the one that was confirmed. -/
theorem readFlow_of_saveFlow {reread : Graph} (confirmed : graph.confirm = .ok reread) :
    after.readFlow path = .ok (reread, version) := by
  have read := read_of_saveFlow saved
  have found := look?_of_read read
  obtain ⟨-, members, spelled, kept, isGraph⟩ := Graph.confirm_eq_ok_iff.mp confirmed
  have text := textOf_toUTF8 (Yaml.isWhole_of_read spelled)
  have loaded : Graph.load graph.render path.text = .ok reread :=
    Graph.load_eq_ok_iff.mpr ⟨members, spelled, kept, isGraph⟩
  have known := (saveFlow_eq_ok saved).2.2.2
  simp only [readFlow, requireFlow, found, read, text, loaded, Except.mapError, bind, Except.bind, known]
  rfl

/-- Whatever is saved next over the version that was answered, the file has not been changed. -/
theorem saveFlow_of_saveFlow {next : Graph} {keepNext : Bool} {failure : Failure}
    (refused : ((saveFlow path next (some version) keepNext).outcome after).1 = .error failure) :
    ¬ failure.IsConflict := by
  intro conflict
  have both := Prod.ext (y := (Except.error failure, _)) refused rfl
  obtain ⟨-, seen, actual, isSeen, isActual, differ, -⟩ := saveFlow_eq_conflict conflict both
  have same := isActual.symm.trans (version?_of_saveFlow saved)
  exact differ ((Option.some.inj (Except.ok.inj same)).trans (Option.some.inj isSeen))

/-- A save is observed by the next reading as it was done. Of all that there was, it changes the file
and the one that the path of the copy means. -/
theorem saveFlow_observed (single : after.holdsDirectory path.backup = false) :
    (graph.dump = .ok graph.render ∧ after.read path = .ok graph.render.toUTF8) ∧
      after.version? path = .ok (some version) ∧
      (∃ reread, graph.confirm = .ok reread ∧ after.readFlow path = .ok (reread, version)) ∧
      (∀ next keepNext failure,
        ((saveFlow path next (some version) keepNext).outcome after).1 = .error failure →
          ¬ failure.IsConflict) ∧
      (keepBackup = true → ∀ old, files.read path = .ok old → after.read path.backup = .ok old) ∧
      ∀ place, after.find? place = files.find? place ∨
        (files.find? place = none ∧ after.find? place = some .directory) ∨
        after.locate path = .ok place ∨ keepBackup = true ∧ after.Means path.backup place := by
  obtain ⟨-, ⟨reread, confirmed⟩, replaced, -⟩ := saveFlow_eq_ok saved
  have dumped := (Graph.confirm_eq_ok_iff.mp confirmed).1
  obtain ⟨frame, copy⟩ := find?_of_replace replaced single
  exact ⟨⟨dumped, read_of_saveFlow saved⟩, version?_of_saveFlow saved,
    ⟨reread, confirmed, readFlow_of_saveFlow saved confirmed⟩,
    fun _ _ _ => saveFlow_of_saveFlow saved, copy, frame⟩

end

attribute [local instance] Installation.usual Execution.usual

/-- A flow of one step. -/
def greeting : Graph where
  header := ⟨.str "greeting", .str "messaging", .null, .null, [], [], .null, .null⟩
  entrypoints := [(.str defaultEntrypoint, .str "hello")]
  nodes := [⟨.str "hello", .template "Hello.", [.leave], []⟩]
  names_distinct := by decide
  ids_distinct := by decide

def flowPath : Path := .ofText "flow.ygtc"

def oldContent : ByteArray := "old".toUTF8

/-- A file to be replaced, and another one. -/
def desk : Files := ⟨[(["flow.ygtc"], .file oldContent), (["note"], .file "keep".toUTF8)]⟩

theorem isOk_confirm_greeting : greeting.confirm.isOk = true := by
  decide +kernel

/-- Where the flow can be saved at all, saving it is saving what was confirmed. -/
theorem saveFlow_greeting {expected : Option String} :
    (saveFlow path greeting expected keepBackup).outcome files =
      (saveConfirmed path greeting expected keepBackup).outcome files := by
  have confirmed := isOk_confirm_greeting
  cases result : greeting.confirm with
  | ok reread => exact saveFlow_of_confirm result
  | error => simp [result, Except.isOk, Except.toBool] at confirmed

theorem saveConfirmed_greeting :
    let done := (saveConfirmed flowPath greeting (some (Digest.text oldContent)) true).outcome desk
    done.1.isOk = true ∧ done.2.holdsDirectory flowPath.backup = false := by
  decide +kernel

theorem saveFlow_observed_greeting : ∃ version after,
    (saveFlow flowPath greeting (some (Digest.text oldContent)) true).outcome desk =
      (.ok version, after) ∧
    after.holdsDirectory flowPath.backup = false ∧
    after.read flowPath = .ok greeting.render.toUTF8 ∧
    after.read flowPath.backup = .ok oldContent ∧
    ∃ reread, after.readFlow flowPath = .ok (reread, version) := by
  obtain ⟨done, single⟩ := saveConfirmed_greeting
  rw [← saveFlow_greeting] at done single
  obtain ⟨version, saved⟩ := exists_of_isOk done
  have read : desk.read flowPath = .ok oldContent := by decide +kernel
  obtain ⟨⟨-, content⟩, -, ⟨reread, -, again⟩, -, copy, -⟩ := saveFlow_observed saved single
  exact ⟨version, _, saved, single, content, copy rfl _ read, reread, again⟩

/-- A path that leads to a file only once a directory is made on the way to it. -/
def roundabout : Path := .ofText "new/../flow.ygtc"

/-- A file beside a directory that has the name of its copy. -/
def shelf : Files := ⟨[(["flow.ygtc"], .file oldContent), (["flow.ygtc.bak"], .directory)]⟩

/-- Where the copy goes to then. -/
def shelfCopy : Place := ["flow.ygtc.bak", "flow.ygtc"]

/-- A file whose copy has the name of a link to another file. -/
def linkedDesk : Files :=
  ⟨[(["flow.ygtc"], .file oldContent), (["flow.ygtc.bak"], .link ["note"]),
    (["note"], .file "keep".toUTF8)]⟩

theorem saveConfirmed_roundabout :
    let done := (saveConfirmed roundabout greeting none true).outcome shelf
    done.1.isOk = true ∧ done.2.content? shelfCopy ≠ shelf.content? shelfCopy ∧
      done.2.locate roundabout ≠ .ok shelfCopy ∧ done.2.locate roundabout.backup ≠ .ok shelfCopy := by
  decide +kernel

theorem saveConfirmed_linkedDesk :
    let done := (saveConfirmed flowPath greeting none true).outcome linkedDesk
    done.1.isOk = true ∧ done.2.content? ["note"] ≠ linkedDesk.content? ["note"] ∧
      done.2.locate flowPath ≠ .ok ["note"] ∧ done.2.locate flowPath.backup ≠ .ok ["note"] := by
  decide +kernel

/-- Neither the path nor that of the copy leads anywhere at first, but another file is set. And where
the path of the copy leads to a link, the file is changed that it stands for. -/
theorem not_saveFlow_observed_roundabout :
    (shelf.look? roundabout = .ok none ∧ shelf.holdsDirectory roundabout.backup = false ∧
      ∃ version after, (saveFlow roundabout greeting none true).outcome shelf = (.ok version, after) ∧
        ∃ place, after.content? place ≠ shelf.content? place ∧
          after.locate roundabout ≠ .ok place ∧ after.locate roundabout.backup ≠ .ok place) ∧
    linkedDesk.look? flowPath = .ok (some (.file oldContent)) ∧
      linkedDesk.holdsDirectory flowPath.backup = false ∧
      ∃ version after, (saveFlow flowPath greeting none true).outcome linkedDesk = (.ok version, after) ∧
        ∃ place, after.content? place ≠ linkedDesk.content? place ∧
          after.locate flowPath ≠ .ok place ∧ after.locate flowPath.backup ≠ .ok place := by
  obtain ⟨done, changed⟩ := saveConfirmed_roundabout
  obtain ⟨doneToo, changedToo⟩ := saveConfirmed_linkedDesk
  rw [← saveFlow_greeting] at done changed doneToo changedToo
  obtain ⟨version, saved⟩ := exists_of_isOk done
  obtain ⟨versionToo, savedToo⟩ := exists_of_isOk doneToo
  exact ⟨⟨by decide +kernel, by decide +kernel, version, _, saved, shelfCopy, changed⟩,
    by decide +kernel, by decide +kernel, versionToo, _, savedToo, ["note"], changedToo⟩

end Change

end StepFlow
