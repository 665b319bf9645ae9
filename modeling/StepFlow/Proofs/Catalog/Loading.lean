import StepFlow.Catalog.Manifest
import StepFlow.Proofs.Files.Rewriting

/-! Loading a catalog again when files have been written. Main statement: the same components are
found as long as no manifest is among the files that were written. -/
namespace StepFlow

open Outcome Files

variable {files after : Files} {path : Path} {paths manifests : List Path} {changed : Place → Prop}
  {suffix name : String}

namespace Manifest

/-- No manifest under the path is at a changed place, or linked to one. -/
def Avoids (files : Files) (changed : Place → Prop) (path : Path) : Prop :=
  ∀ manifests, expand files path = .ok manifests → ∀ manifest ∈ manifests, files.Spares manifest changed

/-- A name that a manifest has leads down. -/
theorem isPlain_of_suffix (known : suffix ∈ suffixes) (ends : suffix.toList.isSuffixOf name.toList = true) :
    Path.IsPlain name := by
  have isLong : ∀ suffix ∈ suffixes, 2 < suffix.length := by decide
  have longer := (List.isSuffixOf_iff_suffix.mp ends).length_le
  rw [String.length_toList, String.length_toList] at longer
  exact Path.isPlain_of_length (Nat.lt_of_lt_of_le (isLong suffix known) longer)

/-- The same manifests are found. -/
theorem expand_of_rewrites (rewrites : Rewrites changed files after) (avoids : Avoids after changed path)
    (expanded : expand files path = .ok manifests) : expand after path = .ok manifests := by
  obtain ⟨isDirectory, known, listed⟩ := bind_eq_ok.mp expanded
  have knownAfter := (isDirectory_of_sameDirectories rewrites.directories).mpr known
  cases isDirectory with
  | false => exact bind_eq_ok.mpr ⟨false, knownAfter, listed⟩
  | true =>
    obtain ⟨place, located, isListed⟩ := bind_eq_ok.mp listed
    have locatedAfter := rewrites.locate_iff.mpr located
    have expandedAfter : expand after path = .ok _ :=
      bind_eq_ok.mpr ⟨true, knownAfter, bind_eq_ok.mpr ⟨place, locatedAfter, rfl⟩⟩
    rw [expandedAfter, ← pure_eq_ok.mp isListed]
    refine congrArg Except.ok (List.flatMap_congr fun suffix isSuffix => congrArg _ ?_)
    -- a file that was added would be a manifest that is found at a changed place
    refine rewrites.filter_namesIn fun stands name isName ends short => ?_
    have member : path.child name ∈ suffixes.flatMap fun suffix =>
        ((after.namesIn place).filter fun name => suffix.toList.isSuffixOf name.toList).map path.child :=
      List.mem_flatMap.mpr ⟨suffix, isSuffix, List.mem_map_of_mem (List.mem_filter.mpr ⟨isName, ends⟩)⟩
    have leads : after.Leads (path.child name) (place ++ [name]) :=
      (leads_child_iff (isPlain_of_suffix isSuffix ends)).mpr
        ⟨place, leads_of_locate locatedAfter, stands, short, rfl⟩
    exact (avoids _ expandedAfter (path.child name) member _ leads).1

section

variable [Installation]

theorem read_of_unread {fault : FileFault} (unread : files.read path = .error fault) :
    Manifest.read files path =
      .ok (.error ⟨path, .failure (.file fault), (Failure.file fault).text⟩) := by
  have untold : files.readText path = .error (.file fault) := by
    rw [readText, unread]
    rfl
  rw [Manifest.read, untold]

/-- What can be read as before makes the same component, and what cannot be read makes none. -/
theorem read_of_same {result : Except Skipped Component}
    (same : ∀ content, after.read path = .ok content ↔ files.read path = .ok content)
    (done : Manifest.read files path = .ok result) :
    ∃ other, Manifest.read after path = .ok other ∧ result.toOption = other.toOption := by
  cases read : files.read path with
  | ok content =>
    have sameText : after.readText path = files.readText path := by
      rw [readText, readText, read, (same content).mpr read]
    refine ⟨result, ?_, rfl⟩
    rwa [Manifest.read, sameText]
  | error fault =>
    rw [read_of_unread read] at done
    cases readAfter : after.read path with
    | ok content => cases read.symm.trans ((same content).mp readAfter)
    | error faultAfter => exact ⟨_, read_of_unread readAfter, Except.ok.inj done ▸ rfl⟩

end

end Manifest

namespace Catalog

theorem foldl_absorb {results others : List (Except Skipped Component)} {catalog : Catalog}
    {skipped more : List Skipped}
    (same : List.Forall₂ (fun result other => result.toOption = other.toOption) results others) :
    (results.foldl absorb (catalog, skipped)).1 = (others.foldl absorb (catalog, more)).1 := by
  induction same generalizing catalog skipped more with
  | nil => rfl
  | @cons result other _ _ first _ ih =>
    cases result with
    | ok component =>
      cases other with
      | ok twin =>
        obtain rfl := Option.some.inj first
        exact ih
      | error => cases first
    | error =>
      cases other with
      | ok => cases first
      | error => exact ih

/-- The same components are loaded, though other manifests may be left out. -/
theorem load_of_rewrites [Installation] {catalog : Catalog} {skipped : List Skipped}
    (rewrites : Rewrites changed files after) (avoids : ∀ path ∈ paths, Manifest.Avoids after changed path)
    (loaded : load files paths = .ok (catalog, skipped)) :
    ∃ others, load after paths = .ok (catalog, others) := by
  obtain ⟨expanded, isExpanded, rest⟩ := bind_eq_ok.mp loaded
  obtain ⟨results, isRead, isLoaded⟩ := bind_eq_ok.mp rest
  rw [mapError_eq_ok] at isExpanded
  obtain ⟨found, isFound, same⟩ := exists_mapM_of_imp isExpanded fun path isPath manifests isOne =>
    ⟨manifests, Manifest.expand_of_rewrites rewrites (avoids path isPath) isOne, rfl⟩
  rw [List.forall₂_eq_eq_eq] at same
  subst same
  have apart : ∀ manifest ∈ expanded.flatten, after.Spares manifest changed := by
    intro manifest member
    obtain ⟨manifests, isOne, member⟩ := List.mem_flatten.mp member
    obtain ⟨path, isPath, one⟩ := exists_of_mem_mapM isFound isOne
    exact avoids path isPath manifests one manifest member
  obtain ⟨others, isReadAfter, together⟩ := exists_mapM_of_imp isRead fun manifest member result done =>
    Manifest.read_of_same (fun content => rewrites.read_iff (apart manifest member)) done
  refine ⟨(others.foldl absorb (.empty, [])).2, ?_⟩
  have absorbed : (others.foldl absorb (.empty, [])).1 = catalog := by
    rw [← foldl_absorb together, pure_eq_ok.mp isLoaded]
  exact bind_eq_ok.mpr ⟨expanded, mapError_eq_ok.mpr isFound,
    bind_eq_ok.mpr ⟨others, isReadAfter, pure_eq_ok.mpr (Prod.ext absorbed rfl)⟩⟩

end Catalog

end StepFlow
