import StepFlow.Proofs.Value.Members

/-! Members under fixed names, of which some may be missing. Main statement: where the names
are distinct, a field is found under its name, and a missing one is not found. -/
namespace StepFlow.Keyed

variable {β : Type} {fields others : List (String × Option β)} {name : String} {value : Option β}

/-- The fields that are there, in their order. -/
def ofFields (fields : List (String × Option β)) : Keyed β :=
  fields.filterMap fun field => field.2.map (Scalar.str field.1, ·)

@[simp] theorem ofFields_nil : ofFields ([] : List (String × Option β)) = [] := rfl

theorem ofFields_cons {field : String × Option β} : ofFields (field :: fields) =
    (field.2.map (Scalar.str field.1, ·)).toList ++ ofFields fields := by
  obtain ⟨name, value⟩ := field
  cases value <;> rfl

theorem ofFields_append : ofFields (fields ++ others) = ofFields fields ++ ofFields others :=
  List.filterMap_append

theorem mem_ofFields {member : Scalar × β} : member ∈ ofFields fields ↔
    ∃ name value, (name, some value) ∈ fields ∧ member = (.str name, value) := by
  simp only [ofFields, List.mem_filterMap, Option.map_eq_some_iff, Prod.exists]
  constructor
  · rintro ⟨name, _, isField, value, rfl, rfl⟩
    exact ⟨name, value, isField, rfl⟩
  · rintro ⟨name, value, isField, rfl⟩
    exact ⟨name, _, isField, value, rfl, rfl⟩

theorem get?_ofFields_of_not_mem (absent : name ∉ fields.map Prod.fst) :
    get? (ofFields fields) (.str name) = none := by
  rw [get?_eq_none_iff]
  intro member isMember
  obtain ⟨other, value, isField, rfl⟩ := mem_ofFields.mp isMember
  rw [Bool.eq_false_iff, ne_eq, Scalar.same_str, Scalar.str.injEq]
  rintro rfl
  exact absent (List.mem_map_of_mem isField)

theorem get?_ofFields (nodup : (fields.map Prod.fst).Nodup) (isField : (name, value) ∈ fields) :
    get? (ofFields fields) (.str name) = value := by
  induction fields with
  | nil => contradiction
  | cons field fields ih =>
    rw [List.map_cons, List.nodup_cons] at nodup
    rw [ofFields_cons, get?_append]
    rcases List.mem_cons.mp isField with rfl | later
    · rw [get?_ofFields_of_not_mem nodup.1]
      cases value <;> simp
    · have differ : field.1 ≠ name := fun same => nodup.1 (same ▸ List.mem_map_of_mem later)
      rw [ih nodup.2 later]
      obtain ⟨other, value⟩ := field
      cases value <;> simp_all

theorem distinct_ofFields (nodup : (fields.map Prod.fst).Nodup) : Distinct (ofFields fields) := by
  induction fields with
  | nil => exact List.Pairwise.nil
  | cons field fields ih =>
    rw [List.map_cons, List.nodup_cons] at nodup
    obtain ⟨name, value⟩ := field
    cases value with
    | none => exact ih nodup.2
    | some value =>
      refine List.pairwise_cons.mpr ⟨fun member isMember => ?_, ih nodup.2⟩
      have unknown := get?_eq_none_iff.mp (get?_ofFields_of_not_mem nodup.1) member isMember
      rwa [Scalar.same_comm]

end StepFlow.Keyed
