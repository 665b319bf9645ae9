import StepFlow.Flow.ComponentKey

/-! What component keys look like. A point tells them from the keys that mean something else. -/
namespace StepFlow

/-- Folding over the list of bounds is what evaluates in reasonable time. -/
theorem CharSet.contains_eq_foldl (set : CharSet) (c : Char) : set.contains c =
    set.bounds.toList.foldl (fun inside bound => if bound ≤ c.toNat then !inside else inside) false := by
  rw [contains, Array.foldl_toList]

namespace ComponentKey

variable {key : String}

theorem point_mem_of_isPattern (pattern : isPattern key = true) : '.' ∈ key.toList := by
  unfold isPattern at pattern
  split at pattern
  · contradiction
  · rename_i first rest spelled
    simp only [Bool.and_eq_true, List.contains_iff_mem] at pattern
    have inside : '.' ∈ dropLineFeed key.toList :=
      spelled ▸ .tail _ (List.dropLast_subset _ pattern.2)
    unfold dropLineFeed at inside
    split at inside
    · exact List.dropLast_subset _ inside
    · exact inside

theorem isPattern_execKey : isPattern execKey = true := by
  have spelled : dropLineFeed execKey.toList = 'c' :: "omponent.exec".toList := by decide
  have keyChars : "omponent.exec".toList.all isKeyChar = true := by
    unfold isKeyChar isWord
    simp only [CharSet.contains_eq_foldl]
    decide +kernel
  simp only [isPattern, spelled, Bool.and_eq_true]
  exact ⟨⟨by decide, keyChars⟩, by decide⟩

theorem not_isPattern_of_builtin (builtin : key ∈ builtinKeys) : isPattern key = false := by
  have pointless : ∀ key ∈ builtinKeys, '.' ∉ key.toList := by decide
  exact Bool.eq_false_iff.mpr fun pattern => pointless key builtin (point_mem_of_isPattern pattern)

end ComponentKey

end StepFlow
