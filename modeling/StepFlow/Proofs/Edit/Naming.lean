import Mathlib.Data.List.Nodup
import Mathlib.Data.List.Perm.Subperm
import StepFlow.Edit.Ids

/-! Ids of inserted nodes. Main statements: an id that is made is a name and is never in use; of as
many numbers as there are ids, and one more, at least one is free; and names are the texts that stay
as they are when they are made names. -/
namespace StepFlow.Ids

variable {existing : List Scalar} {base s : String} {c : Char} {cs ds : List Char} {fuel n : Nat}

/-! ### Names -/

/-- A letter or a low line. -/
def IsNameStart (c : Char) : Prop :=
  'A' ≤ c ∧ c ≤ 'Z' ∨ 'a' ≤ c ∧ c ≤ 'z' ∨ c = '_'

/-- What a name goes on with: digits and dashes as well. -/
def IsNamePart (c : Char) : Prop :=
  IsNameStart c ∨ '0' ≤ c ∧ c ≤ '9' ∨ c = '-'

/-- What ids are made of. -/
inductive IsName : List Char → Prop where
  | intro {c : Char} {cs : List Char} : IsNameStart c → (∀ d ∈ cs, IsNamePart d) → IsName (c :: cs)

theorem isNameStart_iff : IsNameStart c ↔ c.isAlpha = true ∨ c = '_' := by
  have letter : c.isAlpha = true ↔ c.isUpper = true ∨ c.isLower = true := Bool.or_eq_true_iff
  have upper : c.isUpper = true ↔ 'A' ≤ c ∧ c ≤ 'Z' := decide_eq_true_iff
  have lower : c.isLower = true ↔ 'a' ≤ c ∧ c ≤ 'z' :=
    Bool.and_eq_true_iff.trans (and_congr decide_eq_true_iff decide_eq_true_iff)
  rw [IsNameStart, letter, upper, lower, or_assoc]

theorem isDigit_iff : c.isDigit = true ↔ '0' ≤ c ∧ c ≤ '9' :=
  Bool.and_eq_true_iff.trans (and_congr decide_eq_true_iff decide_eq_true_iff)

theorem isNamePart_iff : IsNamePart c ↔ isSlugChar c = true := by
  simp only [IsNamePart, isNameStart_iff, ← isDigit_iff, isSlugChar, Char.isAlphanum,
    Bool.or_eq_true, decide_eq_true_eq]
  tauto

theorem IsName.parts (name : IsName cs) : ∀ c ∈ cs, IsNamePart c := by
  obtain ⟨start, parts⟩ := name
  exact List.forall_mem_cons.mpr ⟨.inl start, parts⟩

theorem IsName.append (name : IsName cs) (parts : ∀ d ∈ ds, IsNamePart d) : IsName (cs ++ ds) := by
  obtain ⟨start, own⟩ := name
  exact .intro start fun d member => (List.mem_append.mp member).elim (own d) (parts d)

theorem IsName.ne_empty (name : IsName s.toList) : s ≠ "" := by
  rintro rfl
  cases name

theorem isName_lead (parts : ∀ c ∈ cs, IsNamePart c) : IsName (lead cs) := by
  have lowLine : IsNameStart '_' := .inr (.inr rfl)
  cases cs with
  | nil => exact .intro lowLine nofun
  | cons c cs =>
    rw [lead]
    split
    · rename_i start
      rw [Bool.or_eq_true, decide_eq_true_eq, ← isNameStart_iff] at start
      exact .intro start (List.forall_mem_cons.mp parts).2
    · exact .intro lowLine parts

theorem IsName.lead_eq (name : IsName cs) : lead cs = cs := by
  obtain ⟨start, -⟩ := name
  exact if_pos (by simpa using isNameStart_iff.mp start)

theorem isName_slugify (s : String) : IsName (slugify s).toList := by
  rw [slugify, String.toList_ofList]
  refine isName_lead fun c member => ?_
  obtain ⟨d, -, rfl⟩ := List.mem_map.mp member
  split
  · rename_i kept
    exact isNamePart_iff.mpr kept
  · exact isNamePart_iff.mpr (by decide)

/-- Names are what is left as it is. -/
theorem slugify_eq_self_iff : slugify s = s ↔ IsName s.toList := by
  constructor
  · intro same
    rw [← same]
    exact isName_slugify s
  · intro name
    have kept : s.toList.map (fun c => if isSlugChar c then c else '_') = s.toList :=
      (List.map_congr_left fun c member => if_pos (isNamePart_iff.mp (name.parts c member))).trans
        (List.map_id _)
    rw [slugify, slugChars, kept, name.lead_eq, String.ofList_toList]

theorem slugify_slugify (s : String) : slugify (slugify s) = slugify s :=
  slugify_eq_self_iff.mpr (isName_slugify s)

theorem isName_numbered (name : IsName base.toList) : IsName (numbered base n).toList := by
  rw [numbered, String.toList_append, String.toList_append, List.append_assoc]
  refine name.append fun d member => ?_
  rcases List.mem_append.mp member with line | digit
  · exact isNamePart_iff.mpr (List.all_eq_true.mp (by decide) d line)
  · rw [Nat.toString_eq_ofList_toDigits, String.toList_ofList] at digit
    have isDigit := Nat.isDigit_of_mem_toDigits (by decide) (by decide) digit
    exact .inr (.inl (isDigit_iff.mp isDigit))

theorem isName_placed (anchor : String) : IsName ("node__after__" ++ slugify anchor).toList := by
  have front : IsName "node__after__".toList :=
    .intro (isNameStart_iff.mpr (.inl (by decide)))
      fun d member => isNamePart_iff.mpr (List.all_eq_true.mp (by decide) d member)
  rw [String.toList_append]
  exact front.append (isName_slugify anchor).parts

theorem isName_base {hint : Option String} {anchor : String} :
    IsName (Ids.base hint anchor).toList := by
  unfold Ids.base
  split
  · split
    · exact isName_placed anchor
    · exact isName_slugify _
  · exact isName_placed anchor

/-! ### Free numbers -/

theorem numbered_injective : Function.Injective (numbered base) := by
  intro i j same
  rw [numbered, numbered, String.append_right_inj, Nat.toString_eq_ofList_toDigits,
    Nat.toString_eq_ofList_toDigits, String.ofList_inj] at same
  have numbers := congrArg (fun digits => Nat.ofDigitChars 10 digits 0) same
  simpa only [Nat.ofDigitChars_ten_toDigits] using numbers

/-- If the search ends at an id in use, it has come past ids in use only. -/
theorem mem_of_firstFree_mem
    (taken : Scalar.str (numbered base (firstFree existing base fuel n)) ∈ existing) :
    ∀ i ≤ fuel, Scalar.str (numbered base (n + i)) ∈ existing := by
  induction fuel generalizing n with
  | zero =>
    intro i bound
    obtain rfl := Nat.le_zero.mp bound
    exact taken
  | succ fuel ih =>
    unfold firstFree at taken
    split at taken
    · rename_i inUse
      rw [List.contains_iff_mem] at inUse
      intro i bound
      cases i with
      | zero => exact inUse
      | succ i =>
        have later := ih taken i (Nat.le_of_succ_le_succ bound)
        rwa [Nat.add_right_comm] at later
    · rename_i free
      exact absurd (List.contains_iff_mem.mpr taken) free

theorem firstFree_not_mem :
    Scalar.str (numbered base (firstFree existing base existing.length n)) ∉ existing := by
  intro taken
  have used := mem_of_firstFree_mem taken
  -- one name more than there are ids, all of them distinct and all of them in use
  let names := (List.range (existing.length + 1)).map fun i => Scalar.str (numbered base (n + i))
  have distinct : names.Nodup := by
    refine List.Nodup.map (fun i j same => ?_) List.nodup_range
    exact Nat.add_left_cancel (numbered_injective (Scalar.str.inj same))
  have within : names ⊆ existing := by
    intro name member
    obtain ⟨i, inRange, rfl⟩ := List.mem_map.mp member
    exact used i (Nat.le_of_lt_succ (List.mem_range.mp inRange))
  have few := (List.subperm_of_subset distinct within).length_le
  simp only [names, List.length_map, List.length_range] at few
  exact absurd few (Nat.not_succ_le_self _)

/-- An id that is made is not in use. -/
theorem generate_not_mem {hint : Option String} {anchor : String} :
    Scalar.str (generate hint anchor existing) ∉ existing := by
  simp only [generate]
  split
  · exact firstFree_not_mem
  · rename_i free
    exact fun member => free (List.contains_iff_mem.mpr member)

/-- An id that is made is a name. -/
theorem isName_generate {hint : Option String} {anchor : String} :
    IsName (generate hint anchor existing).toList := by
  simp only [generate]
  split
  · exact isName_numbered isName_base
  · exact isName_base

theorem generate_ne_empty {hint : Option String} {anchor : String} :
    generate hint anchor existing ≠ "" :=
  isName_generate.ne_empty

end StepFlow.Ids
