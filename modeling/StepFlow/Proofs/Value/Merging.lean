import StepFlow.Proofs.Value.Members

/-! Setting one mapping on another. Setting it again changes nothing, and setting two mappings one
after the other is the same as setting the second on the first one before; also for the order of
keys and for their spelling. -/
namespace StepFlow.Keyed

variable {β : Type} {members other third : Keyed β} {key name : Scalar} {value first second : β}

theorem contains_cons {member : Scalar × β} :
    contains (member :: members) key = (member.1.same key || contains members key) :=
  List.any_cons

theorem contains_insert :
    contains (insert name value members) key = (contains members key || name.same key) := by
  rw [Bool.eq_iff_iff, Bool.or_eq_true, contains_iff, contains_iff, get?_insert]
  split
  · rename_i here
    exact iff_of_true ⟨_, rfl⟩ (.inr here)
  · rename_i away
    simp [away]

theorem contains_update :
    contains (update members other) key = (contains members key || contains other key) := by
  induction other generalizing members with
  | nil => exact (Bool.or_false _).symm
  | cons member other ih =>
    calc contains (update (insert member.1 member.2 members) other) key
        = (contains members key || member.1.same key || contains other key) := by
          rw [ih, contains_insert]
      _ = (contains members key || contains (member :: other) key) := by
          rw [contains_cons, Bool.or_assoc]

/-- Behind a member no other has its key, in any spelling. -/
theorem Distinct.contains_tail {member : Scalar × β} (distinct : Distinct (member :: members))
    (here : member.1.same key = true) : contains members key = false := by
  rw [contains, List.any_eq_false]
  intro later isLater there
  have same := Scalar.same_trans here ((Scalar.same_comm _ _).trans there)
  rw [List.rel_of_pairwise_cons distinct isLater] at same
  cases same

/-- What is set is found, and under the other keys what was there before. -/
theorem get?_update_of_distinct (distinct : Distinct other) :
    get? (update members other) key = (get? other key).or (get? members key) := by
  induction other generalizing members with
  | nil => rfl
  | cons member other ih =>
    rw [update, List.foldl_cons, ← update, ih distinct.of_cons, get?_insert, get?_cons]
    by_cases here : member.1.same key = true
    · rw [contains_eq_false_iff_get?.mp (distinct.contains_tail here), if_pos here, if_pos here]
      rfl
    · rw [if_neg here, if_neg here]

/-! ### Setting two keys -/

/-- Of two values for one key the later counts, at the place and in the spelling of the earlier. -/
theorem insert_insert (same : name.same key = true) :
    insert key second (insert name first members) = insert name second members := by
  induction members with
  | nil => simp [insert, same]
  | cons member members ih =>
    by_cases here : member.1.same name = true
    · simp [insert, here, Scalar.same_trans here same]
    · have away : ¬member.1.same key = true := fun there =>
        here (Scalar.same_trans there ((Scalar.same_comm key name).trans same))
      simp only [insert, here, away, if_false, Bool.false_eq_true, ih]

/-- A key that is known keeps its spelling, whatever spelling it is set in. -/
theorem insert_respell (same : name.same key = true) (known : contains members key = true) :
    insert name value members = insert key value members := by
  induction members with
  | nil => cases known
  | cons member members ih =>
    by_cases here : member.1.same name = true
    · simp only [insert, here, Scalar.same_trans here same, if_true]
    · have away : ¬member.1.same key = true := fun there =>
        here (Scalar.same_trans there ((Scalar.same_comm key name).trans same))
      rw [contains_cons, Bool.or_eq_true] at known
      simp only [insert, here, away, if_false, Bool.false_eq_true, ih (known.resolve_left away)]

/-- A known key can be set before or after another one. -/
theorem insert_comm (apart : name.same key = false) (known : contains members key = true) :
    insert key second (insert name first members) =
      insert name first (insert key second members) := by
  induction members with
  | nil => cases known
  | cons member members ih =>
    by_cases here : member.1.same key = true
    · have away : ¬member.1.same name = true := fun there => by
        have same := Scalar.same_trans ((Scalar.same_comm name member.1).trans there) here
        rw [apart] at same
        cases same
      simp only [insert, here, away, if_true, if_false, Bool.false_eq_true]
    · rw [contains_cons, Bool.or_eq_true] at known
      by_cases there : member.1.same name = true
      · simp only [insert, here, there, if_true, if_false, Bool.false_eq_true]
      · simp only [insert, here, there, if_false, Bool.false_eq_true, ih (known.resolve_left here)]

theorem insert_eq_self (found : get? members key = some value) :
    insert key value members = members := by
  induction members with
  | nil => cases found
  | cons member members ih =>
    rw [get?_cons] at found
    by_cases here : member.1.same key = true
    · rw [if_pos here] at found
      rw [insert, if_pos here, ← Option.some.inj found]
    · rw [if_neg here] at found
      rw [insert, if_neg here, ih found]

/-! ### Setting a key and a mapping -/

/-- A known key that the mapping does not set can be set before or after it. -/
theorem update_insert_comm (known : contains members key = true) (unset : contains other key = false) :
    update (insert key value members) other = insert key value (update members other) := by
  induction other generalizing members with
  | nil => rfl
  | cons member other ih =>
    rw [contains_cons, Bool.or_eq_false_iff] at unset
    calc update (insert key value members) (member :: other)
        = update (insert key value (insert member.1 member.2 members)) other :=
          congrArg (update · other) (insert_comm unset.1 known).symm
      _ = insert key value (update members (member :: other)) :=
          ih (by rw [contains_insert, known, Bool.true_or]) unset.2

/-- What is set on a known key is lost if the mapping sets the key too. -/
theorem update_insert_of_given (known : contains members key = true)
    (given : contains other key = true) :
    update (insert key value members) other = update members other := by
  induction other generalizing members with
  | nil => cases given
  | cons member other ih =>
    by_cases here : member.1.same key = true
    · have spelled : key.same member.1 = true := (Scalar.same_comm _ _).trans here
      have lost : insert member.1 member.2 (insert key value members) =
          insert member.1 member.2 members := by
        rw [insert_insert spelled, insert_respell here known]
      exact congrArg (update · other) lost
    · rw [contains_cons, Bool.or_eq_true] at given
      rw [Bool.not_eq_true] at here
      calc update (insert key value members) (member :: other)
          = update (insert key value (insert member.1 member.2 members)) other :=
            congrArg (update · other) (insert_comm here known).symm
        _ = update members (member :: other) :=
            ih (by rw [contains_insert, known, Bool.true_or])
              (given.resolve_left (by simp [here]))

/-- A key can be set on what is to be set. -/
theorem update_insert (distinct : Distinct other) :
    update members (insert key value other) = insert key value (update members other) := by
  induction other generalizing members with
  | nil => rfl
  | cons member other ih =>
    by_cases here : member.1.same key = true
    · have unset : contains other key = false := distinct.contains_tail here
      rw [insert, if_pos here]
      calc update (insert member.1 value members) other
          = update (insert key value (insert member.1 member.2 members)) other := by
            rw [insert_insert here]
        _ = insert key value (update members (member :: other)) :=
            update_insert_comm (by rw [contains_insert, here, Bool.or_true]) unset
    · rw [insert, if_neg here]
      exact ih distinct.of_cons

/-! ### Setting two mappings -/

/-- What is set in two steps can be set in one. -/
theorem update_update (distinct : Distinct other) :
    update (update members other) third = update members (update other third) := by
  induction third generalizing other with
  | nil => rfl
  | cons member third ih =>
    calc update (update members other) (member :: third)
        = update (update members (insert member.1 member.2 other)) third :=
          congrArg (update · third) (update_insert distinct).symm
      _ = update members (update other (member :: third)) := ih distinct.insert

/-- What is set already can be set again. -/
theorem update_idem : update (update members other) other = update members other := by
  induction other generalizing members with
  | nil => rfl
  | cons member other ih =>
    have again : update (insert member.1 member.2 (update members (member :: other))) other =
        update (update members (member :: other)) other := by
      cases given : contains other member.1 with
      | true =>
        have known : contains (update members (member :: other)) member.1 = true := by
          rw [contains_update, contains_cons, given, Bool.or_true, Bool.or_true]
        exact update_insert_of_given known given
      | false =>
        have found : get? (update members (member :: other)) member.1 = some member.2 :=
          (get?_update (contains_eq_false_iff_get?.mp given)).trans
            (by rw [get?_insert, if_pos (Scalar.same_refl _)])
        rw [insert_eq_self found]
    exact again.trans ih

end StepFlow.Keyed
