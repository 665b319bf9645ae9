import Mathlib.Data.List.DropRight
import StepFlow.Text.Blank
import StepFlow.Text.Split

/-! Cutting texts. Main statements: trimming leaves what stands between the blanks around a text, and
the first piece of a text that is split is what stands before the first separator. -/
namespace StepFlow

variable {sep : Char} {cs ds : List Char} {s word : String}

/-! ### Blanks around a text -/

/-- Characters between blanks, neither the first nor the last of them a blank. -/
structure Trims (cs ds : List Char) : Prop where
  between : ∃ before after, cs = before ++ ds ++ after ∧
    (∀ c ∈ before, isBlank c = true) ∧ ∀ c ∈ after, isBlank c = true
  head : ∀ c, ds.head? = some c → isBlank c = false
  last : ∀ c, ds.getLast? = some c → isBlank c = false

theorem trimChars_eq : trimChars cs = (cs.dropWhile isBlank).rdropWhile isBlank := rfl

theorem trims_trimChars (cs : List Char) : Trims cs (trimChars cs) where
  between := by
    refine ⟨cs.takeWhile isBlank, (cs.dropWhile isBlank).rtakeWhile isBlank, ?_, ?_, ?_⟩
    · rw [trimChars_eq, List.append_assoc, List.rdropWhile_append_rtakeWhile,
        List.takeWhile_append_dropWhile]
    · exact fun _ member => List.mem_takeWhile_imp member
    · exact fun _ member => List.mem_rtakeWhile_imp member
  head c first := by
    obtain ⟨after, same⟩ := List.rdropWhile_prefix isBlank (cs.dropWhile isBlank)
    have front : (cs.dropWhile isBlank).head? = some c := by
      rw [← same, List.head?_append, ← trimChars_eq, first, Option.some_or]
    simpa [front] using List.head?_dropWhile_not isBlank cs
  last c final := by
    have nonempty : trimChars cs ≠ [] := List.getLast?_isSome.mp (by rw [final, Option.isSome_some])
    rw [List.getLast?_eq_some_getLast nonempty, Option.some.injEq] at final
    rw [← final, ← Bool.not_eq_true]
    exact List.rdropWhile_last_not isBlank _ nonempty

theorem Trims.eq_trimChars (trims : Trims cs ds) : trimChars cs = ds := by
  obtain ⟨⟨before, after, rfl, blankBefore, blankAfter⟩, head, last⟩ := trims
  rw [trimChars, stripChars, List.append_assoc, List.dropWhile_append_of_pos blankBefore]
  cases ds with
  | nil =>
    rw [List.nil_append, List.dropWhile_eq_nil_iff.mpr blankAfter]
    rfl
  | cons d ds =>
    have stays : (d :: ds).rdropWhile isBlank = d :: ds := by
      refine List.rdropWhile_eq_self_iff.mpr fun nonempty => ?_
      simp [last _ (List.getLast?_eq_some_getLast nonempty)]
    rw [List.cons_append, List.dropWhile_cons_of_neg (by simp [head d rfl]), ← List.cons_append,
      List.reverse_append, List.dropWhile_append_of_pos (by simpa using blankAfter)]
    exact stays

theorem trimChars_eq_iff : trimChars cs = ds ↔ Trims cs ds :=
  ⟨fun same => same ▸ trims_trimChars cs, Trims.eq_trimChars⟩

theorem trim_eq_iff : trim s = word ↔ Trims s.toList word.toList := by
  rw [← trimChars_eq_iff, trim, ← String.toList_inj, String.toList_ofList]

/-- Nothing is left of a text of blanks, and of no other text. -/
theorem isBlankText_iff : isBlankText s = true ↔ trim s = "" := by
  rw [trim_eq_iff, isBlankText, List.all_eq_true]
  constructor
  · exact fun blank => ⟨⟨s.toList, [], by simp, blank, nofun⟩, nofun, nofun⟩
  · rintro ⟨⟨before, after, same, blankBefore, blankAfter⟩, -, -⟩ c member
    rw [same, String.toList_empty, List.append_nil] at member
    exact (List.mem_append.mp member).elim (blankBefore c) (blankAfter c)

/-! ### The first piece -/

theorem exists_splitChars_eq_cons (sep : Char) (cs : List Char) :
    ∃ pieces, splitChars sep cs = cs.takeWhile (· ≠ sep) :: pieces := by
  induction cs with
  | nil => exact ⟨[], rfl⟩
  | cons c cs ih =>
    obtain ⟨pieces, split⟩ := ih
    by_cases here : c = sep
    · exact ⟨splitChars sep cs, by simp [splitChars, here]⟩
    · exact ⟨pieces, by simp [splitChars, here, split]⟩

theorem exists_splitText_eq_cons : ∃ pieces,
    splitText sep s = String.ofList (s.toList.takeWhile (· ≠ sep)) :: pieces := by
  obtain ⟨pieces, split⟩ := exists_splitChars_eq_cons sep s.toList
  exact ⟨pieces.map String.ofList, by rw [splitText, split, List.map_cons]⟩

end StepFlow
