import StepFlow.Value.Scalar

/-! Mappings as lists of members in insertion order. Main statements: setting a key
changes the keys only by a new one at the end, and keeps them distinct. -/
namespace StepFlow

/-- A mapping from scalars, in insertion order. -/
abbrev Keyed (β : Type) := List (Scalar × β)

namespace Keyed

variable {β : Type}

def keys (members : Keyed β) : List Scalar :=
  members.map Prod.fst

def get? (members : Keyed β) (key : Scalar) : Option β :=
  (members.find? fun member => member.1.same key).map Prod.snd

def contains (members : Keyed β) (key : Scalar) : Bool :=
  members.any fun member => member.1.same key

/-- Sets a key: a known key keeps its place and its spelling. -/
def insert (key : Scalar) (value : β) : Keyed β → Keyed β
  | [] => [(key, value)]
  | member :: members =>
    if member.1.same key then (member.1, value) :: members
    else member :: insert key value members

def erase (members : Keyed β) (key : Scalar) : Keyed β :=
  members.filter fun member => !member.1.same key

/-- Sets the members of the second mapping on the first, in their order. -/
def update (base other : Keyed β) : Keyed β :=
  other.foldl (fun members member => insert member.1 member.2 members) base

/-- The mapping that results from setting keys one after another. -/
def ofList (members : List (Scalar × β)) : Keyed β :=
  update [] members

/-- No key occurs twice, in any spelling. -/
def Distinct (members : Keyed β) : Prop :=
  members.Pairwise fun a b => a.1.same b.1 = false

instance (members : Keyed β) : Decidable (Distinct members) :=
  inferInstanceAs (Decidable (members.Pairwise _))

theorem keys_insert (key : Scalar) (value : β) (members : Keyed β) :
    keys (insert key value members) =
      if contains members key then keys members else keys members ++ [key] := by
  induction members with
  | nil => rfl
  | cons member members ih =>
    by_cases same : member.1.same key = true
    · simp [insert, contains, keys, same]
    · simp only [Bool.not_eq_true] at same
      have unfolded : contains (member :: members) key = contains members key := by
        simp [contains, same]
      rw [unfolded]
      simp only [insert, same, Bool.false_eq_true, ↓reduceIte]
      change member.1 :: keys (insert key value members) = _
      rw [ih]
      cases contains members key <;> simp [keys]

theorem contains_of_mem_keys {members : Keyed β} {key : Scalar} (known : key ∈ keys members) :
    contains members key = true := by
  obtain ⟨member, isMember, rfl⟩ := List.mem_map.mp known
  exact List.any_eq_true.mpr ⟨member, isMember, Scalar.same_refl _⟩

theorem nodup_insert {members : Keyed β} (distinct : (keys members).Nodup) (key : Scalar)
    (value : β) : (keys (insert key value members)).Nodup := by
  rw [keys_insert]
  split
  · exact distinct
  · rename_i unknown
    rw [List.nodup_append]
    refine ⟨distinct, by simp, ?_⟩
    intro a known b isKey same
    rw [List.mem_singleton] at isKey
    subst isKey same
    exact unknown (contains_of_mem_keys known)

theorem nodup_update {base : Keyed β} (distinct : (keys base).Nodup) (other : Keyed β) :
    (keys (update base other)).Nodup := by
  induction other generalizing base with
  | nil => exact distinct
  | cons member other ih => exact ih (nodup_insert distinct member.1 member.2)

theorem nodup_ofList (members : List (Scalar × β)) : (keys (ofList members)).Nodup :=
  nodup_update (by simp [keys]) members

end Keyed

end StepFlow
