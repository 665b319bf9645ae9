import StepFlow.Proofs.Files.Versions

/-! When a file that is there can be replaced. Main statement: over the version that was read, a
graph is saved exactly if it can be written and read again. -/
namespace StepFlow

open Outcome Files

variable [Execution]

/-- Another content can be put in the place of a file: one of the names is free under which it is
put together, and there is a place for the copy if that is kept. -/
structure Files.IsReplaceable (files : Files) (path : Path) (keepBackup : Bool) : Prop where
  named : canBeFile path = true
  temporary : ∃ attempt < Change.attempts, ∃ place,
    files.locate (Change.temporaryPath path attempt) = .ok place ∧ files.find? place = none ∧
      (keepBackup = true → ¬ files.Means path.backup place)
  copy : keepBackup = true → files.isSame path path.backup = false ∧
    ∃ target, files.Means path.backup target ∧ files.TakesFile target

namespace Change

variable {files after : Files} {path temporary : Path} {place other target : Place} {attempt : Nat}
  {graph updated : Graph} {version : String} {content old : ByteArray} {keepBackup : Bool}

/-! ### Names for new files -/

omit [Execution] in
theorem usable_nameLetters : ∀ c ∈ nameLetters,
    c.utf8Size = 1 ∧ Surrogate.isHalf c = false ∧ c ≠ '\x00' := by
  have usable : nameLetters.all (fun c => c.utf8Size = 1 ∧ Surrogate.isHalf c = false ∧ c ≠ '\x00') = true := by
    decide +kernel
  simpa only [List.all_eq_true, decide_eq_true_eq] using usable

theorem isPlain_temporaryName : Path.IsPlain (temporaryName path attempt) := by
  refine Path.isPlain_of_length ?_
  simp only [temporaryName, String.length_append]
  have suffix : ".tmp".length = 4 := by decide
  omega

/-- New names are as long as each other. -/
theorem byteSize_temporaryName : Path.byteSize (temporaryName path attempt) =
    Path.byteSize path.stem + 13 := by
  have letters : Path.byteSize (Execution.letters attempt) = 8 := by
    have each : ∀ c ∈ (Execution.letters attempt).toList,
        (if Surrogate.isHalf c then 1 else c.utf8Size) = 1 := by
      intro c member
      obtain ⟨size, whole, -⟩ := usable_nameLetters c (Execution.letters_plain attempt c member)
      rw [if_neg (by simp [whole]), size]
    rw [Path.byteSize, Path.bytesOf_eq_length each, Execution.length_letters]
  have low : Path.byteSize "_" = 1 := by decide
  have suffix : Path.byteSize ".tmp" = 4 := by decide
  simp only [temporaryName, Path.byteSize_append, letters, low, suffix]

/-- If one new name is usable next to a file, all of them are. -/
theorem isUsable_temporaryPath (usable : (temporaryPath path attempt).IsUsable) (again : Nat) :
    (temporaryPath path again).IsUsable := by
  obtain ⟨start, spelled⟩ := Path.exists_text_child_of_plain path.parent
  obtain ⟨accepted, short⟩ := usable
  rw [Path.refusal?_eq_none_iff, temporaryPath, spelled _ isPlain_temporaryName] at accepted
  rw [temporaryPath, spelled _ isPlain_temporaryName, Path.byteSize_append,
    byteSize_temporaryName] at short
  rw [Path.IsUsable, Path.refusal?_eq_none_iff, temporaryPath, spelled _ isPlain_temporaryName,
    Path.byteSize_append, byteSize_temporaryName]
  simp only [temporaryName, String.toList_append, List.mem_append] at accepted ⊢
  obtain ⟨halves, noNull⟩ := accepted
  have plain := Execution.letters_plain again
  refine ⟨⟨fun c member half => ?_, fun member => ?_⟩, short⟩
  · rcases member with before | ((stem | low) | letter) | suffix
    · exact halves c (.inl before) half
    · exact halves c (.inr (.inl (.inl (.inl stem)))) half
    · exact halves c (.inr (.inl (.inl (.inr low)))) half
    · have whole := (usable_nameLetters c (plain c letter)).2.1
      simp [whole] at half
    · exact halves c (.inr (.inr suffix)) half
  · rcases member with before | ((stem | low) | letter) | suffix
    · exact noNull (.inl before)
    · exact noNull (.inr (.inl (.inl (.inl stem))))
    · exact noNull (.inr (.inl (.inl (.inr low))))
    · exact (usable_nameLetters _ (plain _ letter)).2.2 rfl
    · exact noNull (.inr (.inr suffix))

/-- All new names next to a file lead into one directory. -/
theorem locate_temporaryPath (located : files.locate (temporaryPath path attempt) = .ok place)
    (again : Nat) : ∃ other, files.locate (temporaryPath path again) = .ok other ∧
      files.find? other.dropLast = some .directory := by
  obtain ⟨usable, leads⟩ := locate_eq_ok_iff.mp located
  obtain ⟨directory, leads, isDirectory, short, -⟩ := (leads_child_iff isPlain_temporaryName).mp leads
  rw [byteSize_temporaryName] at short
  have leadsAgain : files.Leads (temporaryPath path again) (directory ++ [temporaryName path again]) :=
    (leads_child_iff isPlain_temporaryName).mpr
      ⟨directory, leads, isDirectory, by rwa [byteSize_temporaryName], rfl⟩
  exact ⟨_, locate_eq_ok_iff.mpr ⟨isUsable_temporaryPath usable again, leadsAgain⟩,
    by rwa [List.dropLast_concat]⟩

/-- If one of the names that are tried is free, a new file is made. -/
theorem exists_makeTemporary {start tries : Nat} (low : start ≤ attempt) (high : attempt < start + tries)
    (located : files.locate (temporaryPath path attempt) = .ok place) (free : files.find? place = none) :
    ∃ temporary after, (makeTemporary path start tries).outcome files = (.ok temporary, after) := by
  induction tries generalizing start with
  | zero => omega
  | succ tries ih =>
    obtain ⟨other, locatedToo, inDirectory⟩ := locate_temporaryPath located start
    rw [makeTemporary, outcome_get_bind]
    cases found : files.find? other with
    | none =>
      have created := create_eq_ok_iff.mpr ⟨other, locatedToo, found, inDirectory, rfl⟩
      rw [created]
      exact ⟨_, _, rfl⟩
    | some entry =>
      have taken : files.create (temporaryPath path start) =
          .error (.taken (temporaryPath path start).text) := by
        rw [create, locatedToo]
        simp only [bind, Except.bind, found]
        rfl
      have later : start ≠ attempt := by
        rintro rfl
        obtain rfl := Except.ok.inj (located.symm.trans locatedToo)
        simp [free] at found
      rw [taken]
      exact ih (by omega) (by omega)

/-! ### Replacing -/

/-- Where a new file can be made, its content can take the place of another one. -/
theorem put_of_makeTemporary (fits : canBeFile path = true) (located : files.locate path = .ok place)
    (notDirectory : files.find? place ≠ some .directory)
    (makes : ∃ temporary after, (makeTemporary path 0 attempts).outcome files = (.ok temporary, after)) :
    (put path content).outcome files = (.ok (), files.set place (.file content)) := by
  obtain ⟨temporary, after, made⟩ := makes
  obtain ⟨source, isNew, free, rfl⟩ := makeTemporary_eq_ok made
  have moved : (act (·.move temporary path)).outcome (files.set source (.file content)) =
      (.ok (), files.set place (.file content)) :=
    act_eq_ok.mpr ((move_temporary isNew free).mpr ⟨place, fits, located, notDirectory, rfl⟩)
  refine bind_eq_ok.mpr ⟨temporary, _, made, ?_⟩
  rw [outcome_tryCatch, outcome_bind, act_eq_ok.mpr (write_temporary isNew free)]
  simp only [moved]

omit [Execution] in
theorem backUp_of_read {name : String} (named : path.name? = some name)
    (read : files.read path = .ok old) (apart : files.isSame path path.backup = false)
    (means : files.Means path.backup target) (takes : files.TakesFile target) :
    (backUp path).outcome files = (.ok (), files.set target (.file old)) := by
  have single : files.holdsDirectory path.backup = false := by
    rw [Bool.eq_false_iff]
    intro holds
    obtain ⟨place, located, isDirectory⟩ := holdsDirectory_iff.mp holds
    exact takes.notDirectory (means.unique ⟨place, located, rfl⟩ ▸ isDirectory)
  have written : files.write path.backup old = .ok (files.set target (.file old)) :=
    write_eq_ok_iff.mpr ⟨target, means, takes, rfl⟩
  refine bind_eq_ok.mpr ⟨some (.file old), files, ?_, ?_⟩
  · rw [outcome_ask, look?_of_read read]
    rfl
  · simp only [named, outcome_get_bind, backupPath_eq_backup named single, apart, Bool.false_eq_true,
      if_false]
    refine bind_eq_ok.mpr ⟨old, files, ?_, act_eq_ok.mpr written⟩
    rw [outcome_ask, read]
    rfl

/-- A file that can be read and replaced is replaced. -/
theorem exists_replace (replaceable : files.IsReplaceable path keepBackup) (read : files.read path = .ok old) :
    ∃ after, (replace path content keepBackup).outcome files = (.ok (), after) := by
  obtain ⟨name, named, plain, whole⟩ := Path.exists_of_canBeFile replaceable.named
  obtain ⟨_, ⟨place, located, rfl⟩, isFile⟩ := read_eq_ok_iff.mp read
  obtain ⟨directory, leading, isDirectory, -⟩ := locate_of_child plain (whole ▸ located)
  have made := makeDirectories_of_directory leading isDirectory
  obtain ⟨attempt, few, free, isNew, unset, aside⟩ := replaceable.temporary
  have notDirectory : files.find? place ≠ some .directory := find?_ne_of_follow (by simp [isFile])
  cases keepBackup with
  | false =>
    have done : (put path content).outcome files = (.ok (), files.set place (.file content)) :=
      put_of_makeTemporary replaceable.named located notDirectory
        (exists_makeTemporary (Nat.zero_le _) (by omega) isNew unset)
    exact ⟨_, bind_eq_ok.mpr ⟨(), files, made, done⟩⟩
  | true =>
    obtain ⟨apart, target, means, takes⟩ := replaceable.copy rfl
    have copied : (backUp path).outcome files = (.ok (), files.set target (.file old)) :=
      backUp_of_read named read apart means takes
    -- the copy is a file and no new name, so all paths lead where they led before
    have keeps : files.KeepsDirectories (files.set target (.file old)) :=
      keepsDirectories_set _ takes.notDirectory
    have back : (files.set target (.file old)).KeepsDirectories files :=
      keepsDirectories_of_set takes.notDirectory
    have differ : target ≠ free := fun same => aside rfl (same ▸ means)
    have unsetStill : (files.set target (.file old)).find? free = none := by
      rw [find?_set_of_file takes.notDirectory, if_neg differ, unset]
    have done : (put path content).outcome (files.set target (.file old)) =
        (.ok (), (files.set target (.file old)).set place (.file content)) :=
      put_of_makeTemporary replaceable.named (locate_of_keepsDirectories keeps located)
        (notDirectory ∘ back place) (exists_makeTemporary (Nat.zero_le _) (by omega)
          (locate_of_keepsDirectories keeps isNew) unsetStill)
    exact ⟨_, bind_eq_ok.mpr ⟨(), files, made, bind_eq_ok.mpr ⟨(), _, copied, done⟩⟩⟩

/-- Nothing but the graph itself is in the way of saving it over what was read. -/
theorem exists_saveFlow_iff [Installation] (replaceable : files.IsReplaceable path keepBackup)
    (read : files.readFlow path = .ok (graph, version)) :
    (∃ saved after, (saveFlow path updated (some version) keepBackup).outcome files = (.ok saved, after)) ↔
      ∃ reread, updated.confirm = .ok reread := by
  constructor
  · rintro ⟨saved, after, done⟩
    exact (saveFlow_eq_ok done).2.1
  · rintro ⟨reread, confirmed⟩
    have known := version?_of_readFlow read
    obtain ⟨content, isContent, -⟩ := version?_eq_ok_some_iff.mp known
    have replaces : ∃ after, (replace path updated.render.toUTF8 keepBackup).outcome files = (.ok (), after) :=
      exists_replace replaceable isContent
    obtain ⟨after, replaced⟩ := replaces
    have expected : (requireVersion path (some version)).outcome files = (.ok (), files) := by
      rw [requireVersion, outcome_bind, outcome_ask, known]
      simp [Except.mapError]
    rw [saveFlow_of_confirm confirmed]
    exact ⟨_, after, bind_eq_ok.mpr ⟨(), files, expected, bind_eq_ok.mpr ⟨(), after, replaced, rfl⟩⟩⟩

end Change

end StepFlow
