import StepFlow.Number.Digits
import StepFlow.Number.Shortest
import StepFlow.Text.Quoted
import StepFlow.Value.Calendar

/-! Values without parts, and when two of them are one mapping key. -/
namespace StepFlow

inductive Scalar where
  | null
  | bool (b : Bool)
  | int (n : Int)
  | float (x : Double)
  | str (s : String)
  | date (d : Date)
  | datetime (t : DateTime)
  | bytes (content : List UInt8)
  deriving DecidableEq

/-- What a scalar is as a mapping key. Numbers and truth values are one family, and
moments with known offsets are compared in universal time. -/
inductive Identity where
  | null
  | number (n : Int)
  | float (x : Double)
  | str (s : String)
  | date (d : Date)
  | moment (known : Bool) (microseconds : Int)
  | bytes (content : List UInt8)
  deriving DecidableEq

namespace Scalar

instance : Inhabited Scalar := ⟨null⟩

instance : Coe String Scalar := ⟨str⟩

def identity : Scalar → Identity
  | null => .null
  | bool b => .number (if b then 1 else 0)
  | int n => .number n
  | float x =>
    match x.toInt? with
    | some n => .number n
    | none => .float x
  | str s => .str s
  | date d => .date d
  | datetime t => .moment t.offset.isSome t.microseconds
  | bytes content => .bytes content

/-- Whether two scalars are one mapping key: `1`, `1.0` and `true` are. -/
def same (a b : Scalar) : Bool :=
  a.identity = b.identity

theorem same_iff {a b : Scalar} : a.same b = true ↔ a.identity = b.identity := by
  simp [same]

@[simp] theorem same_refl (a : Scalar) : a.same a = true := by
  simp [same]

theorem same_comm (a b : Scalar) : a.same b = b.same a := by
  simp [same, eq_comm]

theorem same_trans {a b c : Scalar} (first : a.same b = true) (second : b.same c = true) :
    a.same c = true := by
  simp only [same_iff] at *
  exact first.trans second

/-- A text is one key with an equal text only. -/
@[simp] theorem same_str (a : Scalar) (s : String) : a.same (str s) = true ↔ a = str s := by
  constructor
  · intro h
    rw [same_iff] at h
    cases a with
    | float x =>
      simp only [identity] at h
      split at h <;> simp at h
    | str t => simpa [identity] using h
    | _ => simp [identity] at h
  · rintro rfl
    simp

/-- Whether messages and documents can show the scalar. -/
def isWritable : Scalar → Bool
  | int n => StepFlow.isWritable n
  | _ => true

/-- Whether the scalar is no number and so, though one key with itself, is equal to nothing. -/
def isNaN : Scalar → Bool
  | float x => x.isNaN
  | _ => false

/-- Zero, the empty text, the empty bytes, false and null do not count as given. -/
def isTruthy : Scalar → Bool
  | null => false
  | bool b => b
  | int n => n != 0
  | float x => !x.isZero
  | str s => s != ""
  | date _ => true
  | datetime _ => true
  | bytes content => !content.isEmpty

/-- How messages quote an offset from universal time, in minutes. -/
def zoneText (minutes : Int) : String :=
  if minutes = 0 then "datetime.timezone.utc"
  else "datetime.timezone(" ++ DateTime.durationText minutes ++ ")"

def momentText (t : DateTime) : String :=
  let clock :=
    if t.microsecond ≠ 0 then [t.second, t.microsecond]
    else if t.second ≠ 0 then [t.second]
    else []
  let numbers := [t.date.year, t.date.month, t.date.day, t.hour, t.minute] ++ clock
  let zone := (t.offset.map fun minutes => ["tzinfo=" ++ zoneText minutes]).getD []
  "datetime.datetime(" ++ ", ".intercalate (numbers.map toString ++ zone) ++ ")"

/-- The scalar as messages quote it. -/
def quoted : Scalar → String
  | null => "None"
  | bool b => if b then "True" else "False"
  | int n => toString n
  | float x => x.text
  | str s => Quoted.text s
  | date d => s!"datetime.date({d.year}, {d.month}, {d.day})"
  | datetime t => momentText t
  | bytes content => Quoted.bytes content

/-- The scalar as it is inserted into a message or a path. -/
def text : Scalar → String
  | str s => s
  | date d => d.text
  | datetime t => t.text " "
  | other => other.quoted

end Scalar

end StepFlow
