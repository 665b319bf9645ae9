/-! How long decimal integers may be where texts are read and where texts are written. -/
namespace StepFlow

/-- The most digits of a decimal integer. -/
def digitLimit : Nat := 4300

/-- The least number with more digits than that. -/
def writableBound : Nat := Nat.pow 10 digitLimit

/-- Whether an integer is short enough to be written in a text. -/
def isWritable (n : Int) : Bool :=
  n.natAbs < writableBound

/-- How messages refuse an integer that is too long. -/
def digitLimitText : String :=
  s!"Exceeds the limit ({digitLimit} digits) for integer string conversion"

/-- What they advise, behind what is known of the integer. -/
def digitLimitAdvice : String :=
  "use sys.set_int_max_str_digits() to increase the limit"

end StepFlow
