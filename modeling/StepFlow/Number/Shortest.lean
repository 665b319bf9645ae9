import StepFlow.Number.Double

/-! The shortest decimal that reads back as a given number, and of those the one
nearest to it. A decimal of `n` digits in the interval of reals that round to the
number exists only if one of the number's two neighbours on that grid is in it, so
two candidates for each `n` are enough. -/
namespace StepFlow

/-- The decimal `digits * 10 ^ place`. -/
structure Decimal where
  digits : Nat
  place : Int

namespace Decimal

/-- The number of decimal digits; zero has one. -/
def width (n : Nat) : Nat :=
  (Nat.toDigits 10 n).length

/-- The `e` with `10 ^ e ≤ num / den < 10 ^ (e + 1)`, for a positive fraction. -/
def magnitude (num den : Nat) : Int :=
  if den ≤ num then (width (num / den) : Int) - 1
  else -(width ((den + num - 1) / num - 1) : Int)

/-- The reals that round to a number, and the number itself, as numerators over one
denominator; the ends belong to the interval when `closed`. -/
structure Interval where
  low : Nat
  value : Nat
  high : Nat
  den : Nat
  closed : Bool

/-- The gap below a power of two is half the gap above it. -/
def Interval.ofDouble (x : Double) : Interval :=
  let m := x.significand
  let step := Nat.pow 2 x.scale
  let below := if x.fractionField = 0 && 1 < x.exponentField then 1 else 2
  { low := (4 * m - below) * step, value := 4 * m * step, high := (4 * m + 2) * step
    den := 4 * Nat.pow 2 1074, closed := m % 2 = 0 }

/-- The interval on a grid of unit `10 ^ place`. -/
def Interval.onGrid (i : Interval) (place : Int) : Interval :=
  let up := Nat.pow 10 (-place).toNat
  { i with low := i.low * up, value := i.value * up, high := i.high * up
           den := i.den * Nat.pow 10 place.toNat }

def Interval.contains (i : Interval) (n : Nat) : Bool :=
  if i.closed then i.low ≤ n * i.den && n * i.den ≤ i.high
  else i.low < n * i.den && n * i.den < i.high

/-- The nearer of the two grid points around the value that lie in the interval; a
tie goes to the even one. -/
def Interval.nearest? (i : Interval) : Option Nat :=
  let floor := i.value / i.den
  let twice := 2 * i.value
  let middle := (2 * floor + 1) * i.den
  match i.contains floor, i.contains (floor + 1) with
  | false, false => none
  | true, false => some floor
  | false, true => some (floor + 1)
  | true, true =>
    if twice < middle || (twice = middle && floor % 2 = 0) then some floor else some (floor + 1)

/-- Moves trailing zeros from the digits into the place. -/
def strip : Nat → Decimal → Decimal
  | 0, d => d
  | fuel + 1, d =>
    if d.digits ≠ 0 && d.digits % 10 = 0 then strip fuel ⟨d.digits / 10, d.place + 1⟩ else d

/-- The shortest decimal for the magnitude of a finite number other than zero.
Seventeen digits always suffice. -/
def shortest (x : Double) : Decimal :=
  let interval := Interval.ofDouble x
  let top := magnitude interval.value interval.den
  let found := (List.range 17).findSome? fun (n : Nat) =>
    let place := top - n
    ((interval.onGrid place).nearest?).map fun digits => Decimal.mk digits place
  match found with
  | some d => strip (width d.digits) d
  | none => ⟨0, 0⟩

end Decimal

namespace Double

/-- A sign and at least two digits. -/
def exponentText (e : Int) : String :=
  let digits := toString e.natAbs
  (if e < 0 then "-" else "+") ++ (if digits.length < 2 then "0" ++ digits else digits)

/-- Positional between `1e-04` and `1e+16`, always with a digit after the point;
scientific elsewhere. -/
def render (negative : Bool) (d : Decimal) : String :=
  let digits := Nat.toDigits 10 d.digits
  let n : Int := digits.length
  let e := d.place + n - 1
  let body :=
    if e < -4 || 16 ≤ e then
      let mantissa := match digits with
        | [] => ""
        | [only] => String.ofList [only]
        | first :: rest => String.ofList (first :: '.' :: rest)
      mantissa ++ "e" ++ exponentText e
    else if 0 ≤ d.place then
      String.ofList digits ++ String.ofList (List.replicate d.place.toNat '0') ++ ".0"
    else if 0 ≤ e then
      String.ofList (digits.take (e + 1).toNat) ++ "." ++ String.ofList (digits.drop (e + 1).toNat)
    else
      "0." ++ String.ofList (List.replicate (-e - 1).toNat '0') ++ String.ofList digits
  (if negative then "-" else "") ++ body

/-- The shortest text that reads back as the number. -/
def text (x : Double) : String :=
  if x.isNaN then "nan"
  else if !x.isFinite then (if x.isNegative then "-inf" else "inf")
  else if x.isZero then (if x.isNegative then "-0.0" else "0.0")
  else render x.isNegative (Decimal.shortest x)

end Double

end StepFlow
