import StepFlow.Value.Keyed

/-! Document values: scalars, lists, mappings in insertion order, and the two
collections that only some documents hold, pairs and sets. -/
namespace StepFlow

inductive Value where
  | scalar (s : Scalar)
  | list (items : List Value)
  /-- An entry of an ordered map, which has no other home than a list. -/
  | pair (first second : Value)
  | map (members : List (Scalar × Value))
  /-- The elements as they were put in; each execution lists them in an order of its own. -/
  | set (elements : List Scalar)

/-- The members of a mapping, in insertion order, one for each key. -/
abbrev Members := Keyed Value

namespace Value

instance : Inhabited Value := ⟨scalar .null⟩

mutual

def decEq : (a b : Value) → Decidable (a = b)
  | scalar s, scalar t => decidable_of_iff (s = t) (by simp)
  | list xs, list ys =>
    match decEqItems xs ys with
    | .isTrue same => .isTrue (by rw [same])
    | .isFalse differ => .isFalse (by simpa using differ)
  | pair a b, pair c d =>
    match decEq a c, decEq b d with
    | .isTrue first, .isTrue second => .isTrue (by rw [first, second])
    | .isFalse differ, _ => .isFalse (by simp [differ])
    | _, .isFalse differ => .isFalse (by simp [differ])
  | map xs, map ys =>
    match decEqMembers xs ys with
    | .isTrue same => .isTrue (by rw [same])
    | .isFalse differ => .isFalse (by simpa using differ)
  | set xs, set ys => decidable_of_iff (xs = ys) (by simp)
  | scalar _, list _ | scalar _, pair _ _ | scalar _, map _ | scalar _, set _
  | list _, scalar _ | list _, pair _ _ | list _, map _ | list _, set _
  | pair _ _, scalar _ | pair _ _, list _ | pair _ _, map _ | pair _ _, set _
  | map _, scalar _ | map _, list _ | map _, pair _ _ | map _, set _
  | set _, scalar _ | set _, list _ | set _, pair _ _ | set _, map _ => .isFalse (by simp)

def decEqItems : (xs ys : List Value) → Decidable (xs = ys)
  | [], [] => .isTrue rfl
  | [], _ :: _ => .isFalse (by simp)
  | _ :: _, [] => .isFalse (by simp)
  | x :: xs, y :: ys =>
    match decEq x y, decEqItems xs ys with
    | .isTrue head, .isTrue tail => .isTrue (by rw [head, tail])
    | .isFalse differ, _ => .isFalse (by simp [differ])
    | _, .isFalse differ => .isFalse (by simp [differ])

def decEqMembers : (xs ys : List (Scalar × Value)) → Decidable (xs = ys)
  | [], [] => .isTrue rfl
  | [], _ :: _ => .isFalse (by simp)
  | _ :: _, [] => .isFalse (by simp)
  | (key, value) :: xs, (key', value') :: ys =>
    if head : key = key' then
      match decEq value value', decEqMembers xs ys with
      | .isTrue same, .isTrue tail => .isTrue (by rw [head, same, tail])
      | .isFalse differ, _ => .isFalse (by simp [differ])
      | _, .isFalse differ => .isFalse (by simp [differ])
    else .isFalse (by simp [head])

end

instance : DecidableEq Value := decEq

abbrev null : Value := scalar .null

abbrev str (s : String) : Value := scalar (.str s)

abbrev bool (b : Bool) : Value := scalar (.bool b)

abbrev int (n : Int) : Value := scalar (.int n)

def isNull : Value → Bool
  | scalar .null => true
  | _ => false

/-- The text of a text value. -/
def str? : Value → Option String
  | scalar (.str s) => some s
  | _ => none

/-- The members of a mapping value. -/
def map? : Value → Option Members
  | map members => some members
  | _ => none

/-- Empty collections do not count as given. -/
def isTruthy : Value → Bool
  | scalar s => s.isTruthy
  | list items => !items.isEmpty
  | pair _ _ => true
  | map members => !members.isEmpty
  | set elements => !elements.isEmpty

mutual

/-- The value as messages quote it. -/
def quoted : Value → String
  | scalar s => s.quoted
  | list items => "[" ++ ", ".intercalate (quotedItems items) ++ "]"
  | pair first second => "(" ++ first.quoted ++ ", " ++ second.quoted ++ ")"
  | map members => "\x7b" ++ ", ".intercalate (quotedMembers members) ++ "\x7d"
  | set [] => "set()"
  | set elements => "\x7b" ++ ", ".intercalate (elements.map Scalar.quoted) ++ "\x7d"

def quotedItems : List Value → List String
  | [] => []
  | item :: items => item.quoted :: quotedItems items

def quotedMembers : List (Scalar × Value) → List String
  | [] => []
  | (key, value) :: members =>
    (key.quoted ++ ": " ++ value.quoted) :: quotedMembers members

end

mutual

/-- Whether messages and documents can show the value. -/
def isWritable : Value → Bool
  | scalar s => s.isWritable
  | list items => areWritable items
  | pair first second => first.isWritable && second.isWritable
  | map members => membersWritable members
  | set elements => elements.all Scalar.isWritable

def areWritable : List Value → Bool
  | [] => true
  | item :: items => item.isWritable && areWritable items

def membersWritable : List (Scalar × Value) → Bool
  | [] => true
  | (key, value) :: members => key.isWritable && value.isWritable && membersWritable members

end

mutual

/-- How many collections of the value lie within one another. -/
def depth : Value → Nat
  | scalar _ => 0
  | list items => depthOfItems items + 1
  | pair first second => max first.depth second.depth + 1
  | map members => depthOfMembers members + 1
  | set _ => 1

def depthOfItems : List Value → Nat
  | [] => 0
  | item :: items => max item.depth (depthOfItems items)

def depthOfMembers : List (Scalar × Value) → Nat
  | [] => 0
  | (_, value) :: members => max value.depth (depthOfMembers members)

end

/-- Whether the value is a scalar that is one key with the given one. -/
def denotes (id : Scalar) : Value → Bool
  | scalar s => s.same id
  | _ => false

/-- The value as it is inserted into a message. -/
def text : Value → String
  | scalar s => s.text
  | other => other.quoted

end Value

/-- The value under a key, null when there is none. -/
def Members.get (members : Members) (key : Scalar) : Value :=
  (Keyed.get? members key).getD .null

end StepFlow
