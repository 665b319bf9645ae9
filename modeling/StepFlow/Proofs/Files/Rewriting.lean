import Mathlib.Data.List.Basic
import StepFlow.Proofs.Files.Saving

/-! Files that get other contents while all directories stay. Main statements: what else is read,
listed and looked up stays the same, and replacing a file that is there is such a change: of the
file and of its copy. -/
namespace StepFlow

open Outcome

namespace Files

variable {files after later : Files} {path : Path} {place other : Place} {entry : Entry}
  {content : ByteArray} {changed : Place → Prop} {name shown : String} {names : List String}

/-- A place in a directory, under a name of allowed length. -/
def IsNameable (files : Files) (place : Place) : Prop :=
  ∃ directory name, place = directory ++ [name] ∧ files.find? directory = some .directory ∧
    Path.byteSize name ≤ nameLimit

/-- The same places are directories, and the same links stand for one. -/
structure SameDirectories (files after : Files) : Prop where
  stand : ∀ place, after.find? place = some .directory ↔ files.find? place = some .directory
  linked : ∀ place, after.find? (after.follow place) = some .directory ↔
    files.find? (files.follow place) = some .directory

theorem SameDirectories.refl : SameDirectories files files :=
  ⟨fun _ => .rfl, fun _ => .rfl⟩

theorem SameDirectories.trans (first : SameDirectories files after)
    (second : SameDirectories after later) : SameDirectories files later :=
  ⟨fun place => (second.stand place).trans (first.stand place),
    fun place => (second.linked place).trans (first.linked place)⟩

/-- Only files at changed places are written, where there was a file, a link to one or nothing. -/
structure Rewrites (changed : Place → Prop) (files after : Files) : Prop where
  directories : SameDirectories files after
  elsewhere : ∀ place, ¬ changed place → after.find? place = files.find? place
  listed : ∃ added : List Place, after.entries.map Prod.fst = files.entries.map Prod.fst ++ added ∧
    ∀ place ∈ added, changed place ∧ files.IsNameable place

theorem Rewrites.trans (first : Rewrites changed files after) (second : Rewrites changed after later) :
    Rewrites changed files later := by
  obtain ⟨added, isFirst, fit⟩ := first.listed
  obtain ⟨next, isSecond, fitToo⟩ := second.listed
  refine ⟨first.directories.trans second.directories,
    fun place same => (second.elsewhere place same).trans (first.elsewhere place same),
    added ++ next, by rw [isSecond, isFirst, List.append_assoc], ?_⟩
  intro place member
  rcases List.mem_append.mp member with isAdded | isNext
  · exact fit place isAdded
  · obtain ⟨isChanged, directory, name, whole, isDirectory, short⟩ := fitToo place isNext
    exact ⟨isChanged, directory, name, whole, (first.directories.stand directory).mp isDirectory, short⟩

theorem map_fst_setEntry (entries : List (Place × Entry)) :
    (setEntry place entry entries).map Prod.fst = if place ∈ entries.map Prod.fst then
      entries.map Prod.fst else entries.map Prod.fst ++ [place] := by
  induction entries with
  | nil => simp [setEntry]
  | cons first entries ih =>
    by_cases here : first.1 = place
    · simp [setEntry, here]
    · rw [setEntry, if_neg here, List.map_cons, ih]
      simp only [List.map_cons, List.mem_cons, Ne.symm here, false_or]
      split <;> simp

theorem find?_of_not_mem (notDirectory : files.find? place ≠ some .directory)
    (unlisted : place ∉ files.entries.map Prod.fst) : files.find? place = none := by
  unfold find? at notDirectory ⊢
  split
  · rename_i standing
    simp [standing] at notDirectory
  · rw [Option.map_eq_none_iff, List.find?_eq_none]
    intro entry member
    simpa using fun same : entry.1 = place => unlisted (same ▸ List.mem_map_of_mem member)

theorem sameDirectories_set (notDirectory : files.find? (files.follow place) ≠ some .directory) :
    SameDirectories files (files.set place (.file content)) := by
  have free := find?_ne_of_follow notDirectory
  have stands : (files.set place (.file content)).find? place = some (.file content) := by
    rw [find?_set_of_file free, if_pos rfl]
  have stand (other : Place) : (files.set place (.file content)).find? other = some .directory ↔
      files.find? other = some .directory :=
    ⟨keepsDirectories_of_set free other, keepsDirectories_set _ free other⟩
  refine ⟨stand, fun other => ?_⟩
  by_cases here : place = other
  · subst here
    rw [follow_eq_self (by simp [stands])]
    simp [stands, notDirectory]
  · have follows : (files.set place (.file content)).follow other = files.follow other :=
      follow_of_find? (by rw [find?_set_of_file free, if_neg here])
    rw [follows, stand]

theorem rewrites_set (notDirectory : files.find? (files.follow place) ≠ some .directory)
    (isChanged : changed place) (nameable : files.find? place = none → files.IsNameable place) :
    Rewrites changed files (files.set place (.file content)) := by
  have free := find?_ne_of_follow notDirectory
  refine ⟨sameDirectories_set notDirectory, fun other same => ?_, ?_⟩
  · have differ : place ≠ other := fun here => same (here ▸ isChanged)
    rw [find?_set_of_file free, if_neg differ]
  · have listed : (files.set place (.file content)).entries.map Prod.fst = _ :=
      map_fst_setEntry files.entries
    split at listed
    · exact ⟨[], by rw [listed, List.append_nil], nofun⟩
    · rename_i unlisted
      refine ⟨[place], listed, fun other member => ?_⟩
      obtain rfl := List.mem_singleton.mp member
      exact ⟨isChanged, nameable (find?_of_not_mem free unlisted)⟩

/-! ### Where paths lead -/

theorem isDirectory_eq_ok_iff {isDirectory : Bool} : files.isDirectory path = .ok isDirectory ↔
    files.holdsDirectory path = isDirectory ∧ (files.locate path).mapError meansAbsent ≠ .error false := by
  unfold Files.isDirectory look? holdsDirectory look
  cases files.locate path with
  | error fault =>
    cases absent : meansAbsent fault <;> simp [absent, bind, Except.bind, pure, Except.pure, Except.mapError]
  | ok place =>
    simp only [bind, Except.bind, Except.mapError]
    cases files.find? (files.follow place) with
    | none => simp [throw, throwThe, MonadExceptOf.throw, meansAbsent, pure, Except.pure]
    | some entry => simp [pure, Except.pure]

section

variable (same : SameDirectories files after)

include same

/-- A walk comes to the same place, or to none for the same kind of reason. -/
theorem walk_of_sameDirectories : (after.walk shown place names).mapError meansAbsent =
    (files.walk shown place names).mapError meansAbsent := by
  induction names generalizing place with
  | nil => rfl
  | cons name names ih =>
    -- nothing and a file stop the walk with different faults, but both mean that there is nothing
    have absent {one : Files} (notDirectory : one.find? place ≠ some .directory) :
        (one.walk shown place (name :: names)).mapError meansAbsent = .error true := by
      unfold walk
      split
      · rfl
      · rfl
      · rfl
      · contradiction
    by_cases isDirectory : files.find? place = some .directory
    · simp only [walk, isDirectory, (same.stand place).mpr isDirectory]
      split
      · rfl
      · exact ih
    · rw [absent isDirectory, absent (isDirectory ∘ (same.stand place).mp)]

theorem locate_of_sameDirectories : (after.locate path).mapError meansAbsent =
    (files.locate path).mapError meansAbsent := by
  unfold locate
  split
  · rfl
  · split
    · rfl
    · exact walk_of_sameDirectories same

theorem locate_iff_of_sameDirectories : after.locate path = .ok place ↔ files.locate path = .ok place := by
  rw [← mapError_eq_ok, locate_of_sameDirectories same, mapError_eq_ok]

theorem holdsDirectory_of_sameDirectories : after.holdsDirectory path = files.holdsDirectory path := by
  rw [Bool.eq_iff_iff, holdsDirectory_iff, holdsDirectory_iff]
  simp only [locate_iff_of_sameDirectories same, same.linked]

theorem backupPath_of_sameDirectories :
    Change.backupPath after path name = Change.backupPath files path name := by
  rw [Change.backupPath, Change.backupPath, holdsDirectory_of_sameDirectories same]

theorem isDirectory_of_sameDirectories {isDirectory : Bool} :
    after.isDirectory path = .ok isDirectory ↔ files.isDirectory path = .ok isDirectory := by
  rw [isDirectory_eq_ok_iff, isDirectory_eq_ok_iff, holdsDirectory_of_sameDirectories same,
    locate_of_sameDirectories same]

end

/-! ### What stands elsewhere -/

theorem eq_of_map_codeOf {a b : String}
    (same : a.toList.map Surrogate.codeOf = b.toList.map Surrogate.codeOf) : a = b :=
  String.toList_inj.mp (List.map_injective_iff.mpr (fun _ _ => Surrogate.codeOf_injective) same)

/-- The same names are put in the same order, whatever others are among them. -/
theorem filter_mergeSort {isKind : String → Bool} {xs ys : List String}
    (same : (xs.filter isKind).Perm (ys.filter isKind)) :
    (xs.mergeSort fun a b => !Surrogate.precedes b a).filter isKind =
      (ys.mergeSort fun a b => !Surrogate.precedes b a).filter isKind := by
  let codes (name : String) : List Nat := name.toList.map Surrogate.codeOf
  have precedes_iff {a b : String} : (!Surrogate.precedes b a) = true ↔ ¬ codes b < codes a := by
    rw [Bool.not_eq_true', Surrogate.precedes, decide_eq_false_iff_not]
  have sorted (zs : List String) :
      ((zs.mergeSort fun a b => !Surrogate.precedes b a).filter isKind).Pairwise
        fun a b => ¬ codes b < codes a := by
    have whole : (zs.mergeSort fun a b => !Surrogate.precedes b a).Pairwise
        fun a b => (!Surrogate.precedes b a) = true := by
      refine List.pairwise_mergeSort (fun a b c below above => ?_) (fun a b => ?_) zs
      · rw [precedes_iff, List.not_lt] at below above ⊢
        exact List.le_trans below above
      · rw [Bool.or_eq_true, precedes_iff, precedes_iff, List.not_lt, List.not_lt]
        exact List.le_total _ _
    exact (whole.imp precedes_iff.mp).filter _
  refine List.Perm.eq_of_pairwise (fun a b _ _ below above => eq_of_map_codeOf ?_) (sorted xs) (sorted ys) ?_
  · exact List.le_antisymm (List.not_lt.mp below) (List.not_lt.mp above)
  have permuted := List.Perm.filter isKind (List.mergeSort_perm xs fun a b => !Surrogate.precedes b a)
  exact permuted.trans (same.trans (List.Perm.filter isKind (List.mergeSort_perm ys _)).symm)

/-- The path leads to none of the places, and to no link to one of them. -/
def Spares (files : Files) (path : Path) (changed : Place → Prop) : Prop :=
  ∀ place, files.Leads path place → ¬ changed place ∧ ¬ changed (files.follow place)

namespace Rewrites

variable (rewrites : Rewrites changed files after)

include rewrites

theorem locate_iff : after.locate path = .ok place ↔ files.locate path = .ok place :=
  locate_iff_of_sameDirectories rewrites.directories

theorem leads_iff : after.Leads path place ↔ files.Leads path place :=
  ⟨leads_of_keepsDirectories fun place => (rewrites.directories.stand place).mp,
    leads_of_keepsDirectories fun place => (rewrites.directories.stand place).mpr⟩

/-- A file that is not written is read as before. -/
theorem read_iff (spared : after.Spares path changed) :
    after.read path = .ok content ↔ files.read path = .ok content := by
  have same {place : Place} (located : after.locate path = .ok place) :
      after.follow place = files.follow place ∧
        after.find? (after.follow place) = files.find? (files.follow place) := by
    obtain ⟨apart, apartToo⟩ := spared place (leads_of_locate located)
    have follows := follow_of_find? (rewrites.elsewhere place apart)
    exact ⟨follows, by rw [rewrites.elsewhere _ apartToo, follows]⟩
  rw [read_eq_ok_iff, read_eq_ok_iff]
  constructor
  · rintro ⟨_, ⟨place, located, rfl⟩, isFile⟩
    exact ⟨_, ⟨place, rewrites.locate_iff.mp located, rfl⟩, (same located).2 ▸ isFile⟩
  · rintro ⟨_, ⟨place, located, rfl⟩, isFile⟩
    have located := rewrites.locate_iff.mpr located
    exact ⟨_, ⟨place, located, rfl⟩, (same located).2.symm ▸ isFile⟩

/-- Names of a kind that no written file has are listed as before. -/
theorem filter_namesIn {isKind : String → Bool}
    (apart : after.find? place = some .directory → ∀ name ∈ after.namesIn place, isKind name = true →
      Path.byteSize name ≤ nameLimit → ¬ changed (place ++ [name])) :
    (after.namesIn place).filter isKind = (files.namesIn place).filter isKind := by
  obtain ⟨added, listed, fit⟩ := rewrites.listed
  let inDirectory (key : Place) : Option String := if key.dropLast = place then key.getLast? else none
  have names (one : Files) : one.namesIn place =
      ((one.entries.map Prod.fst).filterMap inDirectory).mergeSort
        fun a b => !Surrogate.precedes b a := by
    rw [List.filterMap_map]
    rfl
  have namesAfter := names after
  rw [listed, List.filterMap_append] at namesAfter
  have quiet : (added.filterMap inDirectory).filter isKind = [] := by
    rw [List.filter_eq_nil_iff]
    intro name member ofKind
    obtain ⟨key, isAdded, found⟩ := List.mem_filterMap.mp member
    obtain ⟨isChanged, directory, last, rfl, isDirectory, short⟩ := fit key isAdded
    simp only [inDirectory, List.dropLast_concat, List.getLast?_concat] at found
    split at found
    · rename_i here
      obtain rfl := Option.some.inj found
      have isListed : last ∈ after.namesIn place := by
        rw [namesAfter, List.mem_mergeSort]
        exact List.mem_append_right _ member
      have isDirectory := (rewrites.directories.stand directory).mpr isDirectory
      exact apart (here ▸ isDirectory) last isListed ofKind short (here ▸ isChanged)
    · cases found
  rw [namesAfter, names files]
  refine filter_mergeSort ?_
  rw [List.filter_append, quiet, List.append_nil]

end Rewrites

/-! ### Replacing -/

theorem isNameable_of_leads (plain : Path.IsPlain name) (leads : files.Leads (path.child name) place) :
    files.IsNameable place := by
  obtain ⟨directory, -, isDirectory, short, rfl⟩ := (leads_child_iff plain).mp leads
  exact ⟨directory, name, rfl, isDirectory, short⟩

theorem TakesFile.isNameable (takes : files.TakesFile place) (free : files.find? place = none) :
    files.IsNameable place := by
  rcases takes with ⟨old, isFile⟩ | ⟨-, inDirectory, short⟩
  · simp [free] at isFile
  · have nonempty : place ≠ [] := fun empty => by simp [empty, find?, isStanding] at free
    obtain ⟨directory, name, rfl⟩ := List.eq_nil_or_concat' place |>.resolve_left nonempty
    exact ⟨directory, name, rfl, by simpa using inDirectory, by simpa using short⟩

/-- Where the copy of a file goes to. -/
def copyPath (files : Files) (path : Path) : Path :=
  Change.backupPath files path (path.name?.getD "")

/-- The place of a file, or that of its copy. -/
def IsFileOrCopy (files : Files) (path : Path) (place : Place) : Prop :=
  files.Leads path place ∨ files.Means (files.copyPath path) place

end Files

namespace Change

open Files

variable {files after : Files} {path : Path} {content old : ByteArray} {keepBackup : Bool}

/-- Replacing a file that is there writes the file and its copy only. -/
theorem rewrites_of_replace [Execution] (read : files.read path = .ok old)
    (done : (replace path content keepBackup).outcome files = (.ok (), after)) :
    Rewrites (after.IsFileOrCopy path) files after := by
  obtain ⟨grown, copied, place, made, copies, fits, located, notDirectory, isAfter⟩ :=
    replace_eq_ok done
  obtain ⟨name, named, plain, whole⟩ := Path.exists_of_canBeFile fits
  obtain ⟨_, ⟨standing, there, rfl⟩, isFile⟩ := read_eq_ok_iff.mp read
  -- the file could be read, so what leads to it is there and nothing had to be made
  have unmade : files = grown := by
    obtain ⟨directory, located, isDirectory, -⟩ := locate_of_child plain (whole ▸ there)
    obtain ⟨-, same⟩ := Prod.mk.inj ((makeDirectories_of_directory located isDirectory).symm.trans made)
    exact same
  subst unmade
  have written {changed : Place → Prop} (isChanged : changed place) (same : SameDirectories files copied) :
      Rewrites changed copied after := by
    have there : files.locate path = .ok place := (locate_iff_of_sameDirectories same).mp located
    obtain ⟨_, ⟨_, again, rfl⟩, isFile⟩ := read_eq_ok_iff.mp read
    obtain rfl := Except.ok.inj (there.symm.trans again)
    have free : copied.find? (copied.follow place) ≠ some .directory := by
      simp [same.linked, isFile]
    have leads := leads_of_locate located
    rw [whole] at leads
    exact isAfter ▸ rewrites_set free isChanged fun _ => isNameable_of_leads plain leads
  have leads (same : SameDirectories files copied) : after.Leads path place := by
    have anywhere : Rewrites (fun _ => True) copied after := written trivial same
    exact anywhere.leads_iff.mpr (leads_of_locate located)
  cases copies with
  | none => exact written (.inl (leads .refl)) .refl
  | @copy _ held target _ namedToo readHeld apart means takes =>
    obtain rfl := Option.some.inj (named.symm.trans namedToo)
    have free : files.find? (files.follow target) ≠ some .directory := by
      rw [follow_eq_self takes.noLink]
      exact takes.notDirectory
    have same : SameDirectories files (files.set target (.file held)) := sameDirectories_set free
    have there : files.locate path = .ok place := (locate_iff_of_sameDirectories same).mp located
    have meansCopy : after.Means (after.copyPath path) target := by
      have all : Rewrites (fun _ => True) (files.set target (.file held)) after := written trivial same
      rw [copyPath, named, Option.getD_some,
        backupPath_of_sameDirectories (same.trans all.directories), isAfter]
      exact (means.set_of_isSame takes read there apart notDirectory).2
    have copied : Rewrites (after.IsFileOrCopy path) files (files.set target (.file held)) :=
      rewrites_set free (.inr meansCopy) takes.isNameable
    exact copied.trans (written (.inl (leads same)) same)

end Change

end StepFlow
