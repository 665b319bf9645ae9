import Mathlib.Data.List.Nodup
import StepFlow.Value.Basic

/-! Looking up members. A key that was set is found with its value, and setting it changes
what is found under no other key. Members of distinct keys are what setting them one after
another gives. -/
namespace StepFlow.Keyed

variable {β : Type} {members other : Keyed β} {key name : Scalar} {value : β}

@[simp] theorem get?_nil : get? ([] : Keyed β) key = none := rfl

@[simp] theorem get?_cons {member : Scalar × β} :
    get? (member :: members) key =
      if member.1.same key then some member.2 else get? members key := by
  simp only [get?, List.find?_cons]
  split <;> simp_all

theorem get?_append : get? (members ++ other) key = (get? members key).or (get? other key) := by
  simp [get?, List.find?_append, Option.map_or]

theorem get?_eq_none_iff : get? members key = none ↔
    ∀ member ∈ members, member.1.same key = false := by
  simp [get?]

theorem contains_iff : contains members key = true ↔ ∃ value, get? members key = some value := by
  rw [← Option.isSome_iff_exists, get?, Option.isSome_map, List.find?_isSome, contains,
    List.any_eq_true]

theorem contains_eq_false_iff_get? : contains members key = false ↔ get? members key = none := by
  rw [← Option.not_isSome_iff_eq_none, Option.isSome_iff_exists, ← contains_iff, Bool.not_eq_true]

theorem get?_insert : get? (insert name value members) key =
    if name.same key then some value else get? members key := by
  induction members with
  | nil => simp [insert]
  | cons member members ih =>
    unfold insert
    by_cases known : member.1.same name = true
    · have spelling : member.1.same key = name.same key := by
        rw [Scalar.same, Scalar.same, Scalar.same_iff.mp known]
      simp only [known, if_true, get?_cons, spelling]
      split <;> rfl
    · simp only [known, Bool.false_eq_true, if_false, get?_cons, ih]
      by_cases here : member.1.same key = true
      · have other : name.same key = false := by
          rw [Bool.eq_false_iff]
          intro same
          exact known (Scalar.same_iff.mpr
            ((Scalar.same_iff.mp here).trans (Scalar.same_iff.mp same).symm))
        simp [here, other]
      · simp [here]

/-- Setting other keys leaves a key alone. -/
theorem get?_update (unset : get? other key = none) :
    get? (update members other) key = get? members key := by
  induction other generalizing members with
  | nil => rfl
  | cons member other ih =>
    rw [get?_cons] at unset
    split at unset
    · contradiction
    · rename_i away
      rw [update, List.foldl_cons, ← update, ih unset, get?_insert, if_neg away]

/-- The member that is set last is found. -/
theorem get?_ofList_concat : get? (ofList (members ++ [(key, value)])) key = some value := by
  rw [ofList, update, List.foldl_append, List.foldl_cons, List.foldl_nil, get?_insert,
    if_pos (Scalar.same_refl key)]

/-- Members of other keys may be left out. -/
theorem get?_filter {p : Scalar × β → Bool}
    (stays : ∀ member ∈ members, member.1.same key = true → p member = true) :
    get? (members.filter p) key = get? members key := by
  induction members with
  | nil => rfl
  | cons member members ih =>
    have rest := ih fun other isOther => stays other (.tail _ isOther)
    by_cases here : member.1.same key = true
    · rw [List.filter_cons_of_pos (stays member (.head _) here), get?_cons, get?_cons, if_pos here,
        if_pos here]
    · rw [List.filter_cons, get?_cons, if_neg here]
      split
      · rw [get?_cons, if_neg here, rest]
      · exact rest

/-- Erasing a key leaves other keys alone. -/
theorem get?_erase (apart : name.same key = false) :
    get? (erase members name) key = get? members key := by
  refine get?_filter fun member _ here => ?_
  rw [Bool.not_eq_true', Bool.eq_false_iff]
  intro erased
  rw [Scalar.same_comm] at erased
  exact absurd (Scalar.same_trans erased here) (by simp [apart])

theorem erase_append : erase (members ++ other) key = erase members key ++ erase other key :=
  List.filter_append ..

theorem erase_cons_self : erase ((key, value) :: members) key = erase members key :=
  List.filter_cons_of_neg (by simp)

theorem mem_insert {member : Scalar × β} (isMember : member ∈ insert key value members) :
    member ∈ members ∨ member.2 = value := by
  induction members with
  | nil =>
    rw [insert, List.mem_singleton] at isMember
    exact .inr (congrArg Prod.snd isMember)
  | cons first members ih =>
    unfold insert at isMember
    split at isMember
    · rcases List.mem_cons.mp isMember with rfl | later
      · exact .inr rfl
      · exact .inl (.tail _ later)
    · rcases List.mem_cons.mp isMember with rfl | later
      · exact .inl (.head _)
      · exact (ih later).imp_left (.tail _)

theorem length_keys : (keys members).length = members.length :=
  List.length_map _

theorem mem_keys_insert {other : Scalar} (isKey : other ∈ keys (insert key value members)) :
    other ∈ keys members ∨ other = key := by
  rw [keys_insert] at isKey
  split at isKey
  · exact .inl isKey
  · exact (List.mem_append.mp isKey).imp_right List.mem_singleton.mp

theorem keys_erase_subset : keys (erase members key) ⊆ keys members :=
  List.map_subset _ (List.filter_sublist.subset)

/-- What is there after an update was there before or was set. -/
theorem mem_update {member : Scalar × β} (isMember : member ∈ update members other) :
    member ∈ members ∨ ∃ given ∈ other, member.2 = given.2 := by
  induction other generalizing members with
  | nil => exact .inl isMember
  | cons first other ih =>
    rcases ih isMember with known | ⟨given, isGiven, same⟩
    · exact (mem_insert known).imp_right fun same => ⟨first, .head _, same⟩
    · exact .inr ⟨given, .tail _ isGiven, same⟩

/-- New keys come behind the known ones. -/
theorem keys_prefix_update : keys members <+: keys (update members other) := by
  induction other generalizing members with
  | nil => exact List.prefix_rfl
  | cons first other ih =>
    have extended : keys members <+: keys (insert first.1 first.2 members) := by
      rw [keys_insert]
      split
      · exact List.prefix_rfl
      · exact List.prefix_append _ _
    exact extended.trans ih

/-! ### Distinct keys -/

theorem distinct_iff : Distinct members ↔ ((keys members).map Scalar.identity).Nodup := by
  simp only [Distinct, keys, List.map_map, List.Nodup, List.pairwise_map, Function.comp_apply,
    Scalar.same, decide_eq_false_iff_not]

theorem contains_eq_false_iff : contains members key = false ↔
    key.identity ∉ (keys members).map Scalar.identity := by
  rw [← Bool.not_eq_true, not_iff_not]
  simp [contains, keys, Scalar.same_iff]

theorem insert_of_not_contains (unknown : contains members key = false) :
    insert key value members = members ++ [(key, value)] := by
  induction members with
  | nil => rfl
  | cons member members ih =>
    simp only [contains, List.any_cons, Bool.or_eq_false_iff] at unknown
    rw [insert, if_neg (by simp [unknown.1]), ih unknown.2, List.cons_append]

theorem Distinct.insert (distinct : Distinct members) : Distinct (insert key value members) := by
  rw [distinct_iff] at *
  rw [keys_insert]
  split
  · exact distinct
  · rename_i unknown
    have fresh := contains_eq_false_iff.mp (Bool.eq_false_iff.mpr unknown)
    simpa [List.nodup_append, distinct] using fresh

theorem Distinct.update (distinct : Distinct members) : Distinct (update members other) := by
  induction other generalizing members with
  | nil => exact distinct
  | cons member other ih => exact ih distinct.insert

theorem update_eq_append (distinct : Distinct (members ++ other)) :
    update members other = members ++ other := by
  induction other generalizing members with
  | nil => rw [update, List.foldl_nil, List.append_nil]
  | cons member other ih =>
    have unknown : contains members member.1 = false := by
      rw [contains_eq_false_iff]
      rw [distinct_iff] at distinct
      simp only [keys, List.map_append, List.map_cons, List.nodup_append] at distinct
      exact fun known => distinct.2.2 _ known _ (.head _) rfl
    rw [update, List.foldl_cons, insert_of_not_contains unknown, ← update,
      ih (by simpa using distinct)]
    simp

theorem ofList_eq_self (distinct : Distinct members) : ofList members = members :=
  update_eq_append distinct

end StepFlow.Keyed
