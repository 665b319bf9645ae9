import StepFlow.Proofs.Files.Changes
import StepFlow.Proofs.Files.Places

/-! What saving does to files, step by step. Main statements: where it succeeds, it has made
directories, has copied what the path held, and has put the content in its place, in this order; and
of the file in which the content is put together nothing stays, whether or not it takes that place. -/
namespace StepFlow

open Outcome Files

/-! ### Names side by side -/

namespace Path

variable {path : Path} {name : String}

/-- A path that can be a file's ends in a name that leads down. -/
theorem exists_of_canBeFile (fits : Files.canBeFile path = true) :
    ∃ name, path.name? = some name ∧ IsPlain name ∧ path = path.parent.child name := by
  unfold Files.canBeFile at fits
  cases named : path.name? with
  | none => simp [named] at fits
  | some name =>
    have notAbove : name ≠ aboveName := by simpa [named] using fits
    obtain ⟨last, notRoot⟩ := Option.filter_eq_some_iff.mp named
    obtain ⟨front, names⟩ := List.getLast?_eq_some_iff.mp last
    refine ⟨name, rfl, ⟨by simpa using notRoot, notAbove⟩, congrArg Path.mk ?_⟩
    simp [parent, named, names]

/-- The path of the copy of what a path holds. -/
def backup (path : Path) : Path :=
  path.parent.child (path.name?.getD "" ++ backupSuffix)

end Path

namespace Files

variable {files after : Files} {path : Path} {place target : Place} {name : String}

/-! ### Versions -/

theorem look?_of_read {content : ByteArray} (read : files.read path = .ok content) :
    files.look? path = .ok (some (.file content)) :=
  look?_eq_ok_some_iff.mpr (look_eq_ok_iff.mpr (read_eq_ok_iff.mp read))

theorem version?_eq_ok_some_iff {version : String} : files.version? path = .ok (some version) ↔
    ∃ content, files.read path = .ok content ∧ version = Digest.text content := by
  rw [version?, bind_eq_ok]
  constructor
  · rintro ⟨_ | entry, -, known⟩
    · cases known
    · obtain ⟨content, read, same⟩ := bind_eq_ok.mp known
      exact ⟨content, read, (Option.some.inj (pure_eq_ok.mp same)).symm⟩
  · rintro ⟨content, read, rfl⟩
    refine ⟨_, look?_of_read read, bind_eq_ok.mpr ⟨content, read, rfl⟩⟩

theorem version?_eq_ok_none_iff : files.version? path = .ok none ↔ files.look? path = .ok none := by
  rw [version?, bind_eq_ok]
  constructor
  · rintro ⟨_ | entry, absent, known⟩
    · exact absent
    · obtain ⟨content, -, same⟩ := bind_eq_ok.mp known
      cases pure_eq_ok.mp same
  · intro absent
    exact ⟨none, absent, rfl⟩

end Files

namespace Change

variable {files after : Files} {path : Path} {content : ByteArray} {names : List String}
  {keepBackup : Bool}

/-! ### Failures -/

theorem failsOnFiles_allowDirectory {fault : FileFault} : (allowDirectory path fault).FailsOnFiles := by
  refine failsOnFiles_ask.bind fun isDirectory => ?_
  split
  · exact failsOnFiles_pure
  · exact failsOnFiles_throw

theorem failsOnFiles_makeDirectories {depth : Nat} : (makeDirectories names depth).FailsOnFiles := by
  induction depth with
  | zero => exact failsOnFiles_pure
  | succ depth ih =>
    refine failsOnFiles_get_bind fun files => ?_
    split
    · exact failsOnFiles_set
    · refine ih.bind fun _ => failsOnFiles_get_bind fun files => ?_
      split
      · exact failsOnFiles_set
      · exact failsOnFiles_throw
      · exact failsOnFiles_allowDirectory
    · exact failsOnFiles_allowDirectory

theorem failsOnFiles_backUp : (backUp path).FailsOnFiles := by
  refine failsOnFiles_ask.bind fun found => ?_
  split
  · exact failsOnFiles_pure
  · exact failsOnFiles_throw
  · refine failsOnFiles_get_bind fun files => ?_
    dsimp only
    split
    · exact failsOnFiles_throw
    · exact failsOnFiles_ask.bind fun content => failsOnFiles_act

theorem failsOnFiles_discard : (discard path).FailsOnFiles := by
  refine failsOnFiles_ask.bind fun found => ?_
  split
  · exact failsOnFiles_act
  · exact failsOnFiles_pure

section

variable [Execution]

theorem failsOnFiles_makeTemporary {attempt tries : Nat} :
    (makeTemporary path attempt tries).FailsOnFiles := by
  induction tries generalizing attempt with
  | zero => exact failsOnFiles_throw
  | succ tries ih =>
    refine failsOnFiles_get_bind fun files => ?_
    split
    · exact failsOnFiles_set.bind fun _ => failsOnFiles_pure
    · exact ih
    · exact failsOnFiles_throw

theorem failsOnFiles_put : (put path content).FailsOnFiles := by
  refine failsOnFiles_makeTemporary.bind fun temporary =>
    (failsOnFiles_act.bind fun _ => failsOnFiles_act).tryCatch fun fault => ?_
  exact failsOnFiles_discard.bind fun _ => failsOnFiles_throw

theorem failsOnFiles_replace : (replace path content keepBackup).FailsOnFiles := by
  refine failsOnFiles_makeDirectories.bind fun _ => ?_
  cases keepBackup with
  | false => exact failsOnFiles_put
  | true => exact failsOnFiles_backUp.bind fun _ => failsOnFiles_put

end

/-! ### Directories -/

theorem outcome_allowDirectory {fault : FileFault} :
    ((allowDirectory path fault).outcome files).2 = files := by
  rw [allowDirectory, outcome_bind, outcome_ask]
  cases files.isDirectory path with
  | error => rfl
  | ok isDirectory => cases isDirectory <;> rfl

/-- Making directories changes nothing else. -/
theorem grows_makeDirectories (names : List String) (depth : Nat) (files : Files) :
    files.Grows ((makeDirectories names depth).outcome files).2 := by
  induction depth generalizing files with
  | zero => exact Grows.refl
  | succ depth ih =>
    rw [makeDirectories, outcome_get_bind]
    split
    · rename_i made
      exact grows_of_makeDirectory made
    · have leading := ih files
      rw [outcome_bind]
      rcases led : (makeDirectories names depth).outcome files with ⟨_ | _, middle⟩
      all_goals rw [led] at leading
      · exact leading
      · simp only [outcome_get_bind]
        split
        · rename_i made
          exact leading.trans (grows_of_makeDirectory made)
        · exact leading
        · rw [outcome_allowDirectory]
          exact leading
    · rw [outcome_allowDirectory]
      exact Grows.refl

theorem grows_of_makeDirectories {depth : Nat}
    (made : (makeDirectories names depth).outcome files = (.ok (), after)) : files.Grows after := by
  have grows := grows_makeDirectories names depth files
  rwa [made] at grows

theorem outcome_allowDirectory_of_directory {fault : FileFault} {place : Place}
    (located : files.locate path = .ok place) (isDirectory : files.find? place = some .directory) :
    (allowDirectory path fault).outcome files = (.ok (), files) := by
  have means := means_of_locate located (by simp [isDirectory])
  have looked := look?_eq_ok_some_iff.mpr (look_eq_ok_iff.mpr ⟨place, means, isDirectory⟩)
  have found : files.isDirectory path = .ok true := by
    rw [Files.isDirectory, looked]
    rfl
  rw [allowDirectory, outcome_bind, outcome_ask, found]
  rfl

/-- Where there is a directory, none is made. -/
theorem makeDirectories_of_directory {place : Place} (located : files.locate path = .ok place)
    (isDirectory : files.find? place = some .directory) :
    (makeDirectories path.names path.names.length).outcome files = (.ok (), files) := by
  cases depthIs : path.names.length with
  | zero => rfl
  | succ depth =>
    have whole : path.names.take (depth + 1) = path.names := depthIs ▸ List.take_length
    rw [makeDirectories, outcome_get_bind, whole, makeDirectory_of_directory located isDirectory]
    exact outcome_allowDirectory_of_directory located isDirectory

/-! ### Copying -/

/-- What is copied of the file under a path: nothing, or its content as it is. The copy is another
file. -/
inductive Copies (path : Path) (keepBackup : Bool) (files : Files) : Files → Prop
  | none (idle : keepBackup = true → files.look? path = .ok none) : Copies path keepBackup files files
  | copy {name : String} {content : ByteArray} {target : Place} (isKept : keepBackup = true)
      (named : path.name? = some name) (read : files.read path = .ok content)
      (apart : files.isSame path (backupPath files path name) = false)
      (means : files.Means (backupPath files path name) target) (takes : files.TakesFile target) :
      Copies path keepBackup files (files.set target (.file content))

theorem copies_of_backUp (done : (backUp path).outcome files = (.ok (), after)) :
    Copies path true files after := by
  obtain ⟨found, middle, looked, rest⟩ := bind_eq_ok.mp done
  simp only [outcome_ask, Prod.mk.injEq, mapError_eq_ok] at looked
  obtain ⟨looked, rfl⟩ := looked
  split at rest
  · simp only [outcome_pure, Prod.mk.injEq, true_and] at rest
    exact rest ▸ .none fun _ => looked
  · cases rest
  · rename_i name named
    simp only [outcome_get_bind] at rest
    split at rest
    · cases rest
    · rename_i apart
      obtain ⟨content, middle, isContent, written⟩ := bind_eq_ok.mp rest
      simp only [outcome_ask, Prod.mk.injEq, mapError_eq_ok] at isContent
      obtain ⟨read, rfl⟩ := isContent
      rw [act_eq_ok] at written
      obtain ⟨target, means, takes, rfl⟩ := write_eq_ok_iff.mp written
      exact .copy rfl named read (Bool.eq_false_iff.mpr apart) means takes

theorem Copies.keepsDirectories (copies : Copies path keepBackup files after) :
    files.KeepsDirectories after := by
  cases copies with
  | none => exact KeepsDirectories.refl
  | copy _ _ _ _ _ takes => exact keepsDirectories_set _ takes.notDirectory

/-! ### Putting a file in the place of another -/

/-- A new file can be written, and then it holds the content. -/
theorem write_temporary {temporary : Path} {place : Place}
    (located : files.locate temporary = .ok place) (free : files.find? place = none) :
    (files.set place (.file .empty)).write temporary content =
      .ok (files.set place (.file content)) := by
  have notDirectory : files.find? place ≠ some .directory := by simp [free]
  have stands : (files.set place (.file .empty)).find? place = some (.file .empty) := by
    rw [find?_set_of_file notDirectory, if_pos rfl]
  have located' := locate_of_keepsDirectories (keepsDirectories_set (.file .empty) notDirectory) located
  refine write_eq_ok_iff.mpr ⟨place, means_of_locate located' (by simp [stands]),
    .inl ⟨.empty, stands⟩, ?_⟩
  rw [set_set]

/-- Moving a new file leaves nothing of it where it was. -/
theorem move_temporary {temporary : Path} {place : Place}
    (located : files.locate temporary = .ok place) (free : files.find? place = none) :
    (files.set place (.file content)).move temporary path = .ok after ↔
      ∃ target, canBeFile path = true ∧ files.locate path = .ok target ∧
        files.find? target ≠ some .directory ∧ after = files.set target (.file content) := by
  have notDirectory : files.find? place ≠ some .directory := by simp [free]
  have onward := keepsDirectories_set (.file content) notDirectory
  have back : (files.set place (.file content)).KeepsDirectories files := keepsDirectories_of_set notDirectory
  have located := locate_of_keepsDirectories onward located
  have stands : (files.set place (.file content)).find? place = some (.file content) := by
    rw [find?_set_of_file notDirectory, if_pos rfl]
  rw [move_eq_ok_iff]
  constructor
  · rintro ⟨source, target, entry, isSource, isTarget, fits, found, -, free, rfl⟩
    obtain rfl := Except.ok.inj (located.symm.trans isSource)
    obtain rfl := Option.some.inj (stands.symm.trans found)
    refine ⟨target, fits, locate_of_keepsDirectories back isTarget, free ∘ onward target, ?_⟩
    rw [remove_set ‹_›]
  · rintro ⟨target, fits, isTarget, free, rfl⟩
    refine ⟨place, target, .file content, located, locate_of_keepsDirectories onward isTarget, fits,
      stands, rfl, free ∘ back target, ?_⟩
    rw [remove_set ‹_›]

/-- What has been put where there was nothing is removed again. -/
theorem discard_temporary {temporary : Path} {place : Place}
    (located : files.locate temporary = .ok place) (free : files.find? place = none) :
    (discard temporary).outcome (files.set place (.file content)) = (.ok (), files) := by
  have notDirectory : files.find? place ≠ some .directory := by simp [free]
  have located' := locate_of_keepsDirectories (keepsDirectories_set (.file content) notDirectory) located
  have stands : (files.set place (.file content)).find? place = some (.file content) := by
    rw [find?_set_of_file notDirectory, if_pos rfl]
  have looked : (files.set place (.file content)).look? temporary = .ok (some (.file content)) :=
    look?_eq_ok_some_iff.mpr (look_eq_ok_iff.mpr
      ⟨place, means_of_locate located' (by simp [stands]), stands⟩)
  have removed : (files.set place (.file content)).unlink temporary = .ok files :=
    unlink_eq_ok_iff.mpr ⟨place, .file content, located', stands, rfl, (remove_set free).symm⟩
  rw [discard, outcome_bind, outcome_ask, looked]
  exact act_eq_ok.mpr removed

section

variable [Execution]

/-- A new file stands where there was nothing. -/
theorem makeTemporary_eq_ok {temporary : Path} {attempt tries : Nat}
    (made : (makeTemporary path attempt tries).outcome files = (.ok temporary, after)) :
    ∃ place, files.locate temporary = .ok place ∧ files.find? place = none ∧
      after = files.set place (.file .empty) := by
  induction tries generalizing attempt with
  | zero => cases made
  | succ tries ih =>
    rw [makeTemporary, outcome_get_bind] at made
    split at made
    · rename_i created
      cases made
      obtain ⟨place, located, free, -, rfl⟩ := create_eq_ok_iff.mp created
      exact ⟨place, located, free, rfl⟩
    · exact ih made
    · cases made

theorem files_of_makeTemporary_error {failure : Failure} {attempt tries : Nat}
    (failed : (makeTemporary path attempt tries).outcome files = (.error failure, after)) :
    after = files := by
  induction tries generalizing attempt with
  | zero => exact (congrArg Prod.snd failed).symm
  | succ tries ih =>
    rw [makeTemporary, outcome_get_bind] at failed
    split at failed
    · cases failed
    · exact ih failed
    · exact (congrArg Prod.snd failed).symm

/-- A content is put at the place of the path, and nowhere else is anything of it left. -/
theorem put_eq_ok (done : (put path content).outcome files = (.ok (), after)) :
    ∃ place, canBeFile path = true ∧ files.locate path = .ok place ∧
      files.find? place ≠ some .directory ∧ after = files.set place (.file content) := by
  obtain ⟨temporary, middle, made, rest⟩ := bind_eq_ok.mp done
  obtain ⟨source, located, free, rfl⟩ := makeTemporary_eq_ok made
  rw [outcome_tryCatch, outcome_bind, act_eq_ok.mpr (write_temporary located free)] at rest
  split at rest
  · rename_i moved
    cases rest
    exact (move_temporary located free).mp (act_eq_ok.mp moved)
  · -- what is done about a failure ends in a failure
    obtain ⟨_, _, _, thrown⟩ := bind_eq_ok.mp rest
    cases thrown

/-- A content that cannot be put at the place of the path leaves nothing behind. -/
theorem files_of_put_error {failure : Failure}
    (failed : (put path content).outcome files = (.error failure, after)) : after = files := by
  rcases bind_eq_error.mp failed with unmade | ⟨temporary, middle, made, rest⟩
  · exact files_of_makeTemporary_error unmade
  obtain ⟨source, located, free, rfl⟩ := makeTemporary_eq_ok made
  rw [outcome_tryCatch, outcome_bind, act_eq_ok.mpr (write_temporary located free)] at rest
  split at rest
  · cases rest
  · rename_i unmoved
    obtain rfl := files_of_act_error unmoved
    rw [outcome_bind, discard_temporary located free] at rest
    exact (congrArg Prod.snd rest).symm

/-- What a file is replaced by: directories, then a copy of what there was, then the content. -/
theorem replace_eq_ok (done : (replace path content keepBackup).outcome files = (.ok (), after)) :
    ∃ grown copied place, (makeDirectories path.parent.names path.parent.names.length).outcome files =
        (.ok (), grown) ∧ Copies path keepBackup grown copied ∧
      canBeFile path = true ∧ copied.locate path = .ok place ∧
      copied.find? place ≠ some .directory ∧ after = copied.set place (.file content) := by
  obtain ⟨⟨⟩, grown, made, rest⟩ := bind_eq_ok.mp done
  have split : ∃ copied, Copies path keepBackup grown copied ∧
      (put path content).outcome copied = (.ok (), after) := by
    cases keepBackup with
    | false => exact ⟨grown, .none nofun, rest⟩
    | true =>
      obtain ⟨⟨⟩, copied, kept, rest⟩ := bind_eq_ok.mp rest
      exact ⟨copied, copies_of_backUp kept, rest⟩
  obtain ⟨copied, copies, rest⟩ := split
  obtain ⟨place, fits, located, notDirectory, rfl⟩ := put_eq_ok rest
  exact ⟨grown, copied, place, made, copies, fits, located, notDirectory, rfl⟩

end

/-! ### What is there afterwards -/

/-- The copy goes next to the file unless there is a directory of its name. -/
theorem backupPath_eq_backup {name : String} (named : path.name? = some name)
    (single : files.holdsDirectory path.backup = false) : backupPath files path name = path.backup := by
  have isBackup : path.parent.child (name ++ backupSuffix) = path.backup := by
    rw [Path.backup, named, Option.getD_some]
  rw [backupPath, isBackup, single]
  rfl

/-- What could be copied into a directory leaves the directory there. -/
theorem holdsDirectory_of_means {name : String} {target : Place} (named : path.name? = some name)
    (plain : Path.IsPlain name) (keeps : files.KeepsDirectories after)
    (means : files.Means (backupPath files path name) target)
    (single : after.holdsDirectory path.backup = false) : files.holdsDirectory path.backup = false := by
  have isBackup : path.parent.child (name ++ backupSuffix) = path.backup := by
    rw [Path.backup, named, Option.getD_some]
  rw [Bool.eq_false_iff] at *
  intro holds
  simp only [backupPath, isBackup, if_pos holds] at means
  obtain ⟨_, located, -⟩ := means
  obtain ⟨directory, located, isDirectory, -⟩ := locate_of_child plain located
  exact single (holdsDirectory_of_locate keeps located isDirectory)

section

variable [Execution] (done : (replace path content keepBackup).outcome files = (.ok (), after))

include done

theorem read_of_replace : after.read path = .ok content := by
  obtain ⟨grown, copied, place, -, -, -, located, notDirectory, rfl⟩ := replace_eq_ok done
  have stands : (copied.set place (.file content)).find? place = some (.file content) := by
    rw [find?_set_of_file notDirectory, if_pos rfl]
  have located := locate_of_keepsDirectories (keepsDirectories_set (.file content) notDirectory) located
  exact read_eq_ok_iff.mpr ⟨place, means_of_locate located (by simp [stands]), stands⟩

/-- Of what was there, only the file and the file that the path of its copy means have changed.
The copy holds what was replaced. -/
theorem find?_of_replace (single : after.holdsDirectory path.backup = false) :
    (∀ place, after.find? place = files.find? place ∨
      (files.find? place = none ∧ after.find? place = some .directory) ∨
      after.locate path = .ok place ∨ keepBackup = true ∧ after.Means path.backup place) ∧
    (keepBackup = true → ∀ old, files.read path = .ok old → after.read path.backup = .ok old) := by
  obtain ⟨grown, copied, goal, made, copies, fits, located, notDirectory, rfl⟩ := replace_eq_ok done
  have grows := grows_of_makeDirectories made
  have keeps := keepsDirectories_set (.file content) notDirectory
  have atGoal := locate_of_keepsDirectories keeps located
  cases copies with
  | none idle =>
    refine ⟨fun place => ?_, fun isKept old read => ?_⟩
    · rw [find?_set_of_file notDirectory]
      split
      · rename_i here
        exact .inr (.inr (.inl (here ▸ atGoal)))
      · exact (grows place).imp_right .inl
    · cases (look?_of_read (read_of_grows grows read)).symm.trans (idle isKept)
  | @copy name held target isKept named read apart means takes =>
    have keepsCopy : grown.KeepsDirectories (grown.set target (.file held)) :=
      keepsDirectories_set _ takes.notDirectory
    have plain : Path.IsPlain name := by
      obtain ⟨_, namedToo, plain, -⟩ := Path.exists_of_canBeFile fits
      rwa [Option.some.inj (named.symm.trans namedToo)]
    have same : backupPath grown path name = path.backup := backupPath_eq_backup named
      (holdsDirectory_of_means named plain (keepsCopy.trans keeps) means single)
    rw [same] at means apart
    have locatedGrown : grown.locate path = .ok goal :=
      locate_of_keepsDirectories (keepsDirectories_of_set takes.notDirectory) located
    obtain ⟨differ, meansCopy⟩ := means.set_of_isSame takes read locatedGrown apart notDirectory
    refine ⟨fun place => ?_, fun _ old readOld => ?_⟩
    · rw [find?_set_of_file notDirectory]
      split
      · rename_i here
        exact .inr (.inr (.inl (here ▸ atGoal)))
      · rw [find?_set_of_file takes.notDirectory]
        split
        · rename_i here
          exact .inr (.inr (.inr ⟨isKept, here ▸ meansCopy⟩))
        · exact (grows place).imp_right .inl
    · obtain rfl := Except.ok.inj (read.symm.trans (read_of_grows grows readOld))
      refine read_eq_ok_iff.mpr ⟨target, meansCopy, ?_⟩
      rw [find?_set_of_file notDirectory, if_neg (Ne.symm differ),
        find?_set_of_file takes.notDirectory, if_pos rfl]

end

end Change

end StepFlow
