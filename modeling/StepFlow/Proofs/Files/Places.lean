import Mathlib.Data.List.Basic
import StepFlow.Files.Versions
import StepFlow.Proofs.Outcome

/-! Where paths lead while files change, and what the links there stand for. Main statements: a path
leads to the same place as long as the directories stay, it means the file that was written under it,
and an operation on a path succeeds exactly where it finds what it needs. -/
namespace StepFlow

open Outcome

namespace Path

variable {name : String}

/-- A name that leads down, into a directory. -/
def IsPlain (name : String) : Prop :=
  isRoot name = false ∧ name ≠ aboveName

/-- The names that lead elsewhere are short. -/
theorem isPlain_of_length (long : 2 < name.length) : IsPlain name := by
  have differs {other : String} (short : other.length ≤ 2) : name ≠ other := by
    rintro rfl
    omega
  rw [IsPlain, isRoot, Bool.or_eq_false_iff, decide_eq_false_iff_not, decide_eq_false_iff_not]
  exact ⟨⟨differs (by decide), differs (by decide)⟩, differs (by decide)⟩

theorem byteSize_append (text ending : String) :
    byteSize (text ++ ending) = byteSize text + byteSize ending := by
  suffices ∀ cs, bytesOf (cs ++ ending.toList) = bytesOf cs + bytesOf ending.toList by
    rw [byteSize, String.toList_append]
    exact this text.toList
  intro cs
  induction cs with
  | nil => simp [bytesOf]
  | cons c cs ih => rw [List.cons_append, bytesOf, bytesOf, ih, Nat.add_assoc]

/-- Characters that take one byte each. -/
theorem bytesOf_eq_length {cs : List Char}
    (each : ∀ c ∈ cs, (if Surrogate.isHalf c then 1 else c.utf8Size) = 1) : bytesOf cs = cs.length := by
  induction cs with
  | nil => rfl
  | cons c cs ih =>
    obtain ⟨first, rest⟩ := List.forall_mem_cons.mp each
    rw [bytesOf, first, ih rest, List.length_cons, Nat.add_comm]

/-- The system takes the path. -/
def IsUsable (path : Path) : Prop :=
  path.refusal? = none ∧ byteSize path.text ≤ Files.pathLimit

theorem refusal?_eq_none_iff {path : Path} : path.refusal? = none ↔
    (∀ c ∈ path.text.toList, Surrogate.isHalf c = true → holdsByte (Surrogate.codeOf c) = true) ∧
      '\x00' ∉ path.text.toList := by
  rw [← Utf8.refusal?_eq_none_iff, refusal?]
  cases Utf8.refusal? holdsByte path.text with
  | none => simp
  | some report => simp

/-- A name goes to the end of a path's text, unless that stands for the working directory. -/
theorem exists_text_child {path : Path} (notHere : path.names ≠ []) :
    ∃ between, ∀ name, (path.child name).text = path.text ++ between ++ name := by
  have grows {names : List String} (nonempty : names ≠ []) (name : String) :
      "/".intercalate (names ++ [name]) = "/".intercalate names ++ "/" ++ name := by
    rw [String.intercalate_append_of_ne_nil nonempty (by simp), String.intercalate_singleton]
  obtain ⟨_ | ⟨first, names⟩⟩ := path
  · contradiction
  · simp only [text, child, List.cons_append]
    split
    · by_cases alone : names = []
      · exact ⟨"", fun name => by simp [alone]⟩
      · exact ⟨"/", fun name => by simp only [grows alone name, String.append_assoc]⟩
    · exact ⟨"/", grows (List.cons_ne_nil first names)⟩

/-- What stands before a plain name at the end of a path does not depend on the name. -/
theorem exists_text_child_of_plain (path : Path) :
    ∃ start, ∀ name, IsPlain name → (path.child name).text = start ++ name := by
  by_cases here : path.names = []
  · refine ⟨"", fun name plain => ?_⟩
    simp [text, child, here, plain.1]
  · obtain ⟨between, appended⟩ := exists_text_child here
    exact ⟨path.text ++ between, fun name _ => appended name⟩

/-- What a usable path goes down from is usable as well. -/
theorem isUsable_of_child {path : Path} (usable : (path.child name).IsUsable) : path.IsUsable := by
  by_cases here : path.names = []
  · have isHere : path = Path.here := congrArg Path.mk here
    rw [isHere]
    exact ⟨by decide, by decide⟩
  · obtain ⟨between, appended⟩ := exists_text_child here
    obtain ⟨accepted, short⟩ := usable
    rw [refusal?_eq_none_iff, appended, String.append_assoc, String.toList_append] at accepted
    rw [appended, String.append_assoc, byteSize_append] at short
    refine ⟨refusal?_eq_none_iff.mpr ⟨fun c member => ?_, fun member => ?_⟩, by omega⟩
    · exact accepted.1 c (List.mem_append_left _ member)
    · exact accepted.2 (List.mem_append_left _ member)

end Path

namespace Files

variable {files after later : Files} {path : Path} {place other goal : Place} {shown label : String}
  {name : String} {names : List String} {entry : Entry} {content : ByteArray}

/-! ### Entries -/

/-- The content of the file at a place. -/
def content? (files : Files) (place : Place) : Option ByteArray :=
  match files.find? place with
  | some (.file content) => some content
  | _ => none

theorem content?_eq_some_iff : files.content? place = some content ↔
    files.find? place = some (.file content) := by
  unfold content?
  split
  · simp_all
  · rename_i other
    simpa using other content

theorem find?_set_of_file (notStanding : files.find? place ≠ some .directory) :
    (files.set place entry).find? other = if place = other then some entry else files.find? other := by
  rw [find?_set]
  split
  · rename_i standing
    have differ : place ≠ other := by
      rintro rfl
      exact notStanding (by simp [find?, standing])
    rw [if_neg differ, find?, if_pos standing]
  · rfl

/-! ### Directories -/

/-- What was a directory is one still. -/
def KeepsDirectories (files after : Files) : Prop :=
  ∀ place, files.find? place = some .directory → after.find? place = some .directory

theorem KeepsDirectories.refl : files.KeepsDirectories files :=
  fun _ isDirectory => isDirectory

theorem KeepsDirectories.trans (first : files.KeepsDirectories after)
    (second : after.KeepsDirectories later) : files.KeepsDirectories later :=
  fun place isDirectory => second place (first place isDirectory)

theorem keepsDirectories_set (entry : Entry) (notDirectory : files.find? place ≠ some .directory) :
    files.KeepsDirectories (files.set place entry) := by
  intro other isDirectory
  have differ : place ≠ other := by
    rintro rfl
    exact notDirectory isDirectory
  rw [find?_set_of_file notDirectory, if_neg differ, isDirectory]

/-- Writing a file makes no directory. -/
theorem keepsDirectories_of_set (notDirectory : files.find? place ≠ some .directory) :
    (files.set place (.file content)).KeepsDirectories files := by
  intro other isDirectory
  rw [find?_set_of_file notDirectory] at isDirectory
  split at isDirectory
  · cases isDirectory
  · exact isDirectory

/-- Nothing has changed, but directories may have been made where there was nothing. -/
def Grows (files after : Files) : Prop :=
  ∀ place, after.find? place = files.find? place ∨
    files.find? place = none ∧ after.find? place = some .directory

theorem Grows.refl : files.Grows files :=
  fun _ => .inl rfl

theorem Grows.trans (first : files.Grows after) (second : after.Grows later) :
    files.Grows later := by
  intro place
  rcases second place with same | ⟨free, made⟩
  · rw [same]
    exact first place
  · rcases first place with same | ⟨-, made⟩
    · exact .inr ⟨same ▸ free, made⟩
    · simp [made] at free

theorem Grows.keepsDirectories (grows : files.Grows after) : files.KeepsDirectories after := by
  intro place isDirectory
  rcases grows place with same | ⟨free, -⟩
  · exact same.trans isDirectory
  · simp [free] at isDirectory

theorem Grows.content?_eq (grows : files.Grows after) : after.content? place = files.content? place := by
  unfold content?
  rcases grows place with same | ⟨free, made⟩
  · rw [same]
  · rw [free, made]

/-! ### Walking -/

theorem walk_concat : walk files shown place (names ++ [name]) = .ok goal ↔
    ∃ middle, walk files shown place names = .ok middle ∧
      files.find? middle = some .directory ∧ Path.byteSize name ≤ nameLimit ∧
      goal = step middle name := by
  induction names generalizing place with
  | nil =>
    simp only [List.nil_append, walk, Except.ok.injEq, exists_eq_left']
    cases files.find? place with
    | none => simp
    | some entry =>
      cases entry with
      | file | link => simp
      | directory =>
        by_cases long : Path.byteSize name > nameLimit
        · simp [long, Nat.not_le.mpr long]
        · simp [long, Nat.not_lt.mp long, eq_comm]
  | cons first names ih =>
    rw [List.cons_append, walk, walk]
    cases files.find? place with
    | none => simp
    | some entry =>
      cases entry with
      | file | link => simp
      | directory =>
        by_cases long : Path.byteSize first > nameLimit
        · simp [long]
        · simp only [long, if_false]
          exact ih

/-- A walk does not depend on what its failures would show. -/
theorem walk_of_keepsDirectories (keeps : files.KeepsDirectories after)
    (walks : walk files shown place names = .ok goal) : walk after label place names = .ok goal := by
  induction names generalizing place with
  | nil => exact walks
  | cons first names ih =>
    unfold walk at walks ⊢
    split at walks
    · cases walks
    · cases walks
    · cases walks
    · rename_i isDirectory
      split at walks
      · cases walks
      · rename_i short
        simp only [keeps _ isDirectory, short, if_false]
        exact ih walks

/-- Where the names of a path lead, however many they are. -/
def Leads (files : Files) (path : Path) (place : Place) : Prop :=
  files.walk path.text [] path.names = .ok place

theorem Leads.unique (leads : files.Leads path place) (leadsToo : files.Leads path other) :
    place = other :=
  Except.ok.inj (leads.symm.trans leadsToo)

theorem leads_of_keepsDirectories (keeps : files.KeepsDirectories after)
    (leads : files.Leads path place) : after.Leads path place :=
  walk_of_keepsDirectories keeps leads

theorem step_of_plain (plain : Path.IsPlain name) : step place name = place ++ [name] := by
  unfold step
  rw [if_neg (by simp [plain.1]), if_neg plain.2]

theorem leads_child_iff (plain : Path.IsPlain name) : files.Leads (path.child name) place ↔
    ∃ directory, files.Leads path directory ∧ files.find? directory = some .directory ∧
      Path.byteSize name ≤ nameLimit ∧ place = directory ++ [name] := by
  have relabel {goal : Place} : walk files (path.child name).text [] path.names = .ok goal ↔
      files.Leads path goal :=
    ⟨walk_of_keepsDirectories KeepsDirectories.refl, walk_of_keepsDirectories KeepsDirectories.refl⟩
  rw [Leads, show (path.child name).names = path.names ++ [name] from rfl, walk_concat]
  simp only [relabel, step_of_plain plain]

theorem locate_eq_ok_iff : files.locate path = .ok place ↔
    path.IsUsable ∧ files.Leads path place := by
  unfold locate Leads Path.IsUsable
  cases path.refusal? with
  | some report => simp
  | none =>
    by_cases long : pathLimit < Path.byteSize path.text
    · simp [long, Nat.not_le.mpr long]
    · simp [long, Nat.not_lt.mp long]

theorem locate_of_keepsDirectories (keeps : files.KeepsDirectories after)
    (located : files.locate path = .ok place) : after.locate path = .ok place := by
  rw [locate_eq_ok_iff] at *
  exact ⟨located.1, leads_of_keepsDirectories keeps located.2⟩

theorem leads_of_locate (located : files.locate path = .ok place) : files.Leads path place :=
  (locate_eq_ok_iff.mp located).2

/-- What a path goes down from is a directory that can be located as well. -/
theorem locate_of_child (plain : Path.IsPlain name) (located : files.locate (path.child name) = .ok place) :
    ∃ directory, files.locate path = .ok directory ∧ files.find? directory = some .directory ∧
      place = directory ++ [name] := by
  obtain ⟨usable, leads⟩ := locate_eq_ok_iff.mp located
  obtain ⟨directory, leads, isDirectory, -, whole⟩ := (leads_child_iff plain).mp leads
  exact ⟨directory, locate_eq_ok_iff.mpr ⟨Path.isUsable_of_child usable, leads⟩, isDirectory, whole⟩

/-! ### Links -/

/-- The place that a path means: where it leads, or what a link there stands for. -/
def Means (files : Files) (path : Path) (place : Place) : Prop :=
  ∃ named, files.locate path = .ok named ∧ files.follow named = place

theorem Means.unique (means : files.Means path place) (meansToo : files.Means path other) :
    place = other := by
  obtain ⟨named, located, rfl⟩ := means
  obtain ⟨_, locatedToo, rfl⟩ := meansToo
  exact congrArg files.follow (Except.ok.inj (located.symm.trans locatedToo))

theorem follow_of_find? (same : after.find? place = files.find? place) :
    after.follow place = files.follow place := by
  rw [follow, follow, same]

/-- What is there and is no link stands for itself. -/
theorem follow_eq_self (noLink : ∀ target, files.find? place ≠ some (.link target)) :
    files.follow place = place := by
  unfold follow
  split
  · rename_i target isLink
    exact absurd isLink (noLink target)
  · rfl

theorem find?_ne_of_follow (notDirectory : files.find? (files.follow place) ≠ some .directory) :
    files.find? place ≠ some .directory := by
  intro isDirectory
  rw [follow_eq_self (by simp [isDirectory])] at notDirectory
  exact notDirectory isDirectory

theorem means_of_locate (located : files.locate path = .ok place)
    (noLink : ∀ target, files.find? place ≠ some (.link target)) : files.Means path place :=
  ⟨place, located, follow_eq_self noLink⟩

theorem Grows.follow_eq (grows : files.Grows after) : after.follow place = files.follow place := by
  rcases grows place with same | ⟨free, made⟩
  · exact follow_of_find? same
  · rw [follow_eq_self (by simp [made]), follow_eq_self (by simp [free])]

theorem Grows.means (grows : files.Grows after) (means : files.Means path place) :
    after.Means path place := by
  obtain ⟨named, located, rfl⟩ := means
  exact ⟨named, locate_of_keepsDirectories grows.keepsDirectories located, grows.follow_eq⟩

/-! ### Looking and reading -/

theorem look_eq_ok_iff : files.look path = .ok entry ↔
    ∃ place, files.Means path place ∧ files.find? place = some entry := by
  rw [look, bind_eq_ok]
  constructor
  · rintro ⟨named, located, found⟩
    refine ⟨files.follow named, ⟨named, located, rfl⟩, ?_⟩
    split at found
    · rename_i there
      rw [there, pure_eq_ok.mp found]
    · cases found
  · rintro ⟨_, ⟨named, located, rfl⟩, found⟩
    exact ⟨named, located, by rw [found]; rfl⟩

theorem look?_eq_ok_some_iff : files.look? path = .ok (some entry) ↔ files.look path = .ok entry := by
  unfold look?
  cases files.look path with
  | ok found => simp
  | error fault => by_cases absent : meansAbsent fault = true <;> simp [absent]

theorem read_eq_ok_iff : files.read path = .ok content ↔
    ∃ place, files.Means path place ∧ files.find? place = some (.file content) := by
  rw [← look_eq_ok_iff, read, bind_eq_ok]
  constructor
  · rintro ⟨_ | _ | _, looked, same⟩
    · rw [looked, pure_eq_ok.mp same]
    · cases same
    · cases same
  · intro looked
    exact ⟨_, looked, rfl⟩

theorem holdsDirectory_iff : files.holdsDirectory path = true ↔
    ∃ place, files.locate path = .ok place ∧ files.find? (files.follow place) = some .directory := by
  have looks : (∃ place, files.locate path = .ok place ∧
      files.find? (files.follow place) = some .directory) ↔ files.look path = .ok .directory := by
    simp [look_eq_ok_iff, Means]
  rw [looks, holdsDirectory]
  cases files.look path with
  | error => simp
  | ok entry => cases entry <;> simp [Entry.isDirectory]

/-- Where a path leads to a directory there is one still. -/
theorem holdsDirectory_of_locate (keeps : files.KeepsDirectories after)
    (located : files.locate path = .ok place) (isDirectory : files.find? place = some .directory) :
    after.holdsDirectory path = true := by
  have stays := keeps place isDirectory
  exact holdsDirectory_iff.mpr ⟨place, locate_of_keepsDirectories keeps located,
    by rw [follow_eq_self (by simp [stays]), stays]⟩

theorem read_of_grows (grows : files.Grows after) (read : files.read path = .ok content) :
    after.read path = .ok content := by
  obtain ⟨place, means, isFile⟩ := read_eq_ok_iff.mp read
  have stays : after.content? place = some content :=
    grows.content?_eq.trans (content?_eq_some_iff.mpr isFile)
  exact read_eq_ok_iff.mpr ⟨place, grows.means means, content?_eq_some_iff.mp stays⟩

/-! ### Making and writing -/

theorem makeDirectory_eq_ok_iff : files.makeDirectory path = .ok after ↔
    ∃ place, files.locate path = .ok place ∧ files.find? place = none ∧
      after = files.set place .directory := by
  rw [makeDirectory, bind_eq_ok]
  refine exists_congr fun place => and_congr_right fun _ => ?_
  cases files.find? place with
  | none =>
    simp only [pure_eq_ok, true_and]
    exact eq_comm
  | some => simp [throw_ne_ok]

theorem grows_of_makeDirectory (made : files.makeDirectory path = .ok after) : files.Grows after := by
  obtain ⟨place, -, free, rfl⟩ := makeDirectory_eq_ok_iff.mp made
  intro other
  rw [find?_set_of_file (by simp [free])]
  split
  · rename_i here
    exact .inr ⟨here ▸ free, rfl⟩
  · exact .inl rfl

/-- A directory cannot be made again. -/
theorem makeDirectory_of_directory (located : files.locate path = .ok place)
    (isDirectory : files.find? place = some .directory) :
    files.makeDirectory path = .error (.taken path.text) := by
  rw [makeDirectory, located]
  simp only [bind, Except.bind, isDirectory]
  rfl

/-- A file can be set at the place: there is one, or there is nothing yet in a directory. -/
def TakesFile (files : Files) (place : Place) : Prop :=
  (∃ old, files.find? place = some (.file old)) ∨
    files.find? place = none ∧ files.find? place.dropLast = some .directory ∧
      Path.byteSize (place.getLast?.getD "") ≤ nameLimit

theorem TakesFile.notDirectory (takes : files.TakesFile place) :
    files.find? place ≠ some .directory := by
  rcases takes with ⟨old, isFile⟩ | ⟨free, -⟩
  · simp [isFile]
  · simp [free]

theorem TakesFile.noLink (takes : files.TakesFile place) (target : Place) :
    files.find? place ≠ some (.link target) := by
  rcases takes with ⟨old, isFile⟩ | ⟨free, -⟩
  · simp [isFile]
  · simp [free]

/-- What is asked of the meaning of a path is asked of the place that is followed. -/
theorem exists_means_iff {holds : Place → Prop} : (∃ place, files.Means path place ∧ holds place) ↔
    ∃ named, files.locate path = .ok named ∧ holds (files.follow named) := by
  constructor
  · rintro ⟨_, ⟨named, located, rfl⟩, held⟩
    exact ⟨named, located, held⟩
  · rintro ⟨named, located, held⟩
    exact ⟨_, ⟨named, located, rfl⟩, held⟩

theorem write_eq_ok_iff : files.write path content = .ok after ↔
    ∃ place, files.Means path place ∧ files.TakesFile place ∧
      after = files.set place (.file content) := by
  rw [write, bind_eq_ok, exists_means_iff]
  refine exists_congr fun named => and_congr_right fun _ => ?_
  generalize files.follow named = place
  unfold TakesFile
  dsimp only
  split
  · rename_i isDirectory
    simp [isDirectory, throw_ne_ok]
  · rename_i isLink
    simp [isLink, throw_ne_ok]
  · rename_i isFile
    simp [isFile, pure_eq_ok, eq_comm (a := after)]
  · rename_i free inDirectory
    by_cases long : nameLimit < Path.byteSize (place.getLast?.getD "")
    · simp [free, long, Nat.not_le.mpr long, throw_ne_ok]
    · simp [free, inDirectory, long, Nat.not_lt.mp long, pure_eq_ok, eq_comm (a := after)]
  · rename_i free notDirectory
    have nowhere : ¬ files.find? place.dropLast = some .directory := notDirectory
    simp [free, nowhere, throw_ne_ok]

/-- A path means the file that was written under it. -/
theorem Means.set {target : Place} (means : files.Means path target)
    (takes : files.TakesFile target) : (files.set target (.file content)).Means path target := by
  obtain ⟨named, located, follows⟩ := means
  have located := locate_of_keepsDirectories (keepsDirectories_set (.file content) takes.notDirectory) located
  refine ⟨named, located, ?_⟩
  by_cases here : target = named
  · subst here
    exact follow_eq_self (by simp [find?_set_of_file takes.notDirectory])
  · refine (follow_of_find? ?_).trans follows
    rw [find?_set_of_file takes.notDirectory, if_neg here]

/-- What a path means does not change when something else than its own entry does. -/
theorem Means.set_of_ne {target : Place} (means : files.Means path target)
    (notDirectory : files.find? place ≠ some .directory)
    (apart : ∀ named, files.locate path = .ok named → named ≠ place) :
    (files.set place entry).Means path target := by
  obtain ⟨named, located, follows⟩ := means
  refine ⟨named, locate_of_keepsDirectories (keepsDirectories_set entry notDirectory) located, ?_⟩
  refine (follow_of_find? ?_).trans follows
  rw [find?_set_of_file notDirectory, if_neg (Ne.symm (apart named located))]

/-- Paths that do not lead to one file lead to different places, and so do the links there. -/
theorem follow_ne_of_isSame {named : Place} {another : Path} (read : files.read path = .ok content)
    (located : files.locate path = .ok place) (apart : files.isSame path another = false)
    (locatedToo : files.locate another = .ok named) : files.follow named ≠ files.follow place := by
  intro same
  obtain ⟨_, ⟨_, again, rfl⟩, isFile⟩ := read_eq_ok_iff.mp read
  obtain rfl := Except.ok.inj (located.symm.trans again)
  simp [isSame, located, locatedToo, same, isFile] at apart

/-- When one file is written and another one is put in the place of the file under a path, both are
still where they were. -/
theorem Means.set_of_isSame {target : Place} {another : Path} {old held : ByteArray}
    (means : files.Means another target) (takes : files.TakesFile target)
    (read : files.read path = .ok old) (located : files.locate path = .ok place)
    (apart : files.isSame path another = false)
    (notDirectory : (files.set target (.file held)).find? place ≠ some .directory) :
    target ≠ place ∧
      ((files.set target (.file held)).set place (.file content)).Means another target := by
  have differ {named : Place} (locatedToo : files.locate another = .ok named) :
      files.follow named ≠ files.follow place := follow_ne_of_isSame read located apart locatedToo
  have back : (files.set target (.file held)).KeepsDirectories files :=
    keepsDirectories_of_set takes.notDirectory
  have meansHeld : (files.set target (.file held)).Means another target := means.set takes
  refine ⟨?_, meansHeld.set_of_ne notDirectory fun named locatedToo same => ?_⟩
  · rintro rfl
    obtain ⟨named, locatedToo, follows⟩ := means
    exact differ locatedToo (follows.trans (follow_eq_self takes.noLink).symm)
  · exact differ (locate_of_keepsDirectories back locatedToo) (congrArg files.follow same)

/-! ### Making, moving and removing a file -/

theorem create_eq_ok_iff : files.create path = .ok after ↔
    ∃ place, files.locate path = .ok place ∧ files.find? place = none ∧
      files.find? place.dropLast = some .directory ∧ after = files.set place (.file .empty) := by
  rw [create, bind_eq_ok]
  refine exists_congr fun place => and_congr_right fun _ => ?_
  split
  · rename_i taken
    simp [taken, throw_ne_ok]
  · rename_i free inDirectory
    simp [free, inDirectory, pure_eq_ok, eq_comm (a := after)]
  · rename_i free notDirectory
    have nowhere : ¬ files.find? place.dropLast = some .directory := notDirectory
    simp [free, nowhere, throw_ne_ok]

theorem unlink_eq_ok_iff : files.unlink path = .ok after ↔
    ∃ place entry, files.locate path = .ok place ∧ files.find? place = some entry ∧
      entry.isDirectory = false ∧ after = files.remove place := by
  rw [unlink, bind_eq_ok]
  refine exists_congr fun place => ?_
  rw [exists_and_left]
  refine and_congr_right fun _ => ?_
  cases files.find? place with
  | none => simp [throw_ne_ok]
  | some entry =>
    cases entry <;> simp [throw_ne_ok, pure_eq_ok, Entry.isDirectory, eq_comm (a := after)]

theorem move_eq_ok_iff {target : Path} : files.move path target = .ok after ↔
    ∃ source place entry, files.locate path = .ok source ∧ files.locate target = .ok place ∧
      canBeFile target = true ∧ files.find? source = some entry ∧ entry.isDirectory = false ∧
      files.find? place ≠ some .directory ∧ after = (files.remove source).set place entry := by
  simp only [move, bind_eq_ok]
  refine exists_congr fun source => ?_
  simp only [exists_and_left]
  refine and_congr_right fun _ => exists_congr fun place => and_congr_right fun _ => ?_
  cases fits : canBeFile target with
  | false => exact iff_of_false nofun (by simp)
  | true =>
    simp only [Bool.not_true, Bool.false_eq_true, if_false, true_and]
    split
    · rename_i gone
      simp [gone, throw_ne_ok]
    · rename_i isDirectory
      simp [isDirectory, throw_ne_ok, Entry.isDirectory]
    · rename_i entry found isDirectory
      simp [found, isDirectory, throw_ne_ok]
    · rename_i entry notDirectory found free
      have isEntry : entry.isDirectory = false := by
        cases entry <;> simp_all [Entry.isDirectory]
      have free : ¬ files.find? place = some .directory := free
      simp [found, isEntry, free, pure_eq_ok, eq_comm (a := after)]

theorem set_set (files : Files) (place : Place) (first second : Entry) :
    (files.set place first).set place second = files.set place second := by
  suffices ∀ entries : List (Place × Entry), setEntry place second (setEntry place first entries) =
      setEntry place second entries from congrArg Files.mk (this files.entries)
  intro entries
  induction entries with
  | nil => simp [setEntry]
  | cons other entries ih =>
    by_cases here : other.1 = place
    · simp [setEntry, here]
    · simp [setEntry, here, ih]

/-- What is set where there was nothing and removed again leaves no trace. -/
theorem remove_set (free : files.find? place = none) : (files.set place entry).remove place = files := by
  have unlisted : ∀ other ∈ files.entries, other.1 ≠ place := by
    simp only [find?] at free
    split at free
    · cases free
    · simpa using free
  suffices ∀ entries : List (Place × Entry), (∀ other ∈ entries, other.1 ≠ place) →
      (setEntry place entry entries).filter (·.1 ≠ place) = entries from
    congrArg Files.mk (this files.entries unlisted)
  intro entries apart
  induction entries with
  | nil => simp [setEntry]
  | cons other entries ih =>
    obtain ⟨differ, apart⟩ := List.forall_mem_cons.mp apart
    rw [setEntry, if_neg differ, List.filter_cons_of_pos (by simpa using differ), ih apart]

end Files

end StepFlow
