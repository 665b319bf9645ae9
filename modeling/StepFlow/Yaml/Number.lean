import StepFlow.Number.Digits
import StepFlow.Text.Blank
import StepFlow.Text.Digit
import StepFlow.Text.Lower
import StepFlow.Value.Basic
import StepFlow.Yaml.Fault
import StepFlow.Yaml.Tag

/-! The numbers that scalars spell. -/
namespace StepFlow.Yaml

/-- The value of an ASCII digit in bases up to thirty-six. -/
def digitIn? (base : Nat) (c : Char) : Option Nat :=
  let value :=
    if '0' ≤ c ∧ c ≤ '9' then some (c.toNat - 48)
    else if 'a' ≤ c ∧ c ≤ 'z' then some (c.toNat - 87)
    else if 'A' ≤ c ∧ c ≤ 'Z' then some (c.toNat - 55)
    else none
  value.filter (· < base)

/-- The letter that marks a base in front of its digits. -/
def baseMark? (base : Nat) : Option Char :=
  if base = 2 then some 'b' else if base = 8 then some 'o'
  else if base = 16 then some 'x' else none

/-- Drops a zero and the base's letter. -/
def dropBaseMark (base : Nat) : List Char → List Char
  | '0' :: letter :: cs =>
    if baseMark? base = some letter.toLower then cs else '0' :: letter :: cs
  | cs => cs

/-- The numeral between blanks, its digits in ASCII whatever their script. -/
def numeralChars (text : List Char) : List Char :=
  (stripChars isNumeralSpace text).map asciiDigit

/-- An integer with an optional sign, between blanks. That there are too many digits is
found before what follows them is looked at. -/
def integer (base : Nat) (text : List Char) : Except ValueFault Int :=
  let body := numeralChars text
  let negative := body.head? = some '-'
  let digits := dropBaseMark base (unsigned body)
  let run := digits.takeWhile fun c => (digitIn? base c).isSome
  if base = 10 && digitLimit < run.length then .error (.digitLimit run.length)
  else if run.isEmpty || run.length < digits.length then
    .error (.integer base (String.ofList text))
  else
    let n : Int := ((run.filterMap (digitIn? base)).foldl (fun n d => n * base + d) 0 : Nat)
    .ok (if negative then -n else n)

/-- The number of units that a text in units of sixty spells. -/
def sexagesimal (text : List Char) : Except ValueFault Int := do
  let parts ← (splitChars ':' text).mapM (integer 10)
  return parts.foldl (fun n part => n * 60 + part) 0

/-- An integer in any notation. Low lines do not count. -/
def intValue (text : String) : Except ValueFault Int := do
  let cs := text.toList.filter (· ≠ '_')
  let body := unsigned cs
  let negative := cs.head? = some '-'
  let magnitude ←
    match body with
    | [] => .error .emptyNumber
    | ['0'] => pure 0
    | '0' :: 'b' :: digits => integer 2 digits
    | '0' :: 'x' :: digits => integer 16 digits
    | '0' :: _ => integer 8 body
    | _ => if body.contains ':' then sexagesimal body else integer 10 body
  return if negative then -magnitude else magnitude

/-- The digits of a decimal, their count behind the point, and the rest. -/
def mantissa? (cs : List Char) : Option (List Nat × Nat × List Char) :=
  let whole := cs.takeWhile Char.isDigit
  let (fraction, rest) := match cs.drop whole.length with
    | '.' :: cs => (cs.takeWhile Char.isDigit, cs.dropWhile Char.isDigit)
    | cs => ([], cs)
  let digits := (whole ++ fraction).filterMap (digitIn? 10)
  if digits.isEmpty then none else some (digits, fraction.length, rest)

def numberOf (digits : List Nat) : Nat :=
  digits.foldl (fun n d => n * 10 + d) 0

/-- The exponent that a decimal ends with. -/
def exponent? : List Char → Option Int
  | [] => some 0
  | mark :: cs => do
    guard (mark = 'e' || mark = 'E')
    let digits ← (unsigned cs).mapM (digitIn? 10)
    guard !digits.isEmpty
    let n : Int := numberOf digits
    return if cs.head? = some '-' then -n else n

/-- The size of a decimal without its sign. -/
def magnitude? (cs : List Char) : Option Double :=
  match lowerAscii (String.ofList cs) with
  | "inf" | "infinity" => some Double.infinity
  | "nan" => some Double.nan
  | _ => do
    let (digits, places, rest) ← mantissa? cs
    let exponent ← exponent? rest
    return Double.ofDecimal (numberOf digits) (exponent - places)

/-- A decimal with an optional sign, between blanks, or one of the words for infinity and
for what is not a number. -/
def decimal (text : List Char) : Except ValueFault Double :=
  let body := numeralChars text
  match magnitude? (unsigned body) with
  | some size => .ok (if body.head? = some '-' then size.neg else size)
  | none => .error (.decimal (String.ofList text))

/-- Adds a part in its unit, which is rounded to a number first. -/
def addUnits (sum : Float) (part : Double) (unit : Nat) : Except ValueFault Float :=
  match Double.ofNat? unit with
  | some size => .ok (sum + part.toFloat * size.toFloat)
  | none => .error .unitTooLarge

/-- Units of sixty with a fraction in the last. The least unit is added first. -/
def sexagesimalFloat (text : List Char) : Except ValueFault Double := do
  let parts ← (splitChars ':' text).mapM decimal
  let (sum, _) ← parts.reverse.foldlM (fun (sum, unit) part =>
    return (← addUnits sum part unit, unit * 60)) ((0.0, 1) : Float × Nat)
  return Double.ofFloat sum

/-- A floating-point number in any notation. Low lines and case do not count. What is not
a number gets a stamp, except under its name. -/
def floatValue (stamp : Nat) (text : String) : Except ValueFault Double := do
  let cs := (lower (String.ofList (text.toList.filter (· ≠ '_')))).toList
  let body := unsigned cs
  if cs.isEmpty then .error .emptyNumber
  else if body = ".nan".toList then return Double.nan
  else
    let size ←
      if body = ".inf".toList then pure Double.infinity
      else if body.contains ':' then sexagesimalFloat body
      else decimal body
    let x := if cs.head? = some '-' then size.neg else size
    return if x.isNaN then Double.unnamedNan stamp else x

/-- The truth value that a word stands for. -/
def boolValue (text : String) : Except ValueFault Bool :=
  let word := lowerAscii text
  if ["yes", "true", "on"].contains word then .ok true
  else if ["no", "false", "off"].contains word then .ok false
  else .error .truthValue

/-- The first six digits of a fraction of a second. -/
def microseconds (fraction : List Char) : Nat :=
  let digits := fraction.take 6
  natOf (digits ++ List.replicate (6 - digits.length) '0')

/-- The offset of a zone in minutes, less than a day. -/
def offset (zone : Option (Bool × Nat × Nat)) : Except ValueFault (Option Int) :=
  match zone with
  | none => .ok none
  | some (negative, hours, minutes) =>
    let size : Int := (hours * 60 + minutes : Nat)
    let offset := if negative then -size else size
    if 24 * 60 ≤ size then .error (.calendar (.offset offset)) else .ok (some offset)

/-- The day or the moment that a text spells. -/
def timeValue (text : String) : Except ValueFault Scalar :=
  match timeText? (dropLineFeed text.toList) with
  | none => .error .timestamp
  | some t =>
    let month := natOf t.month
    let day := natOf t.day
    match t.clock with
    | none => ((Date.of? t.year month day).mapError .calendar).map .date
    | some (hour, minute, second) => do
      let offset ← offset t.zone
      let fraction := microseconds t.fraction
      let moment := DateTime.of? t.year month day hour minute second fraction offset
      return .datetime (← moment.mapError .calendar)

end StepFlow.Yaml
