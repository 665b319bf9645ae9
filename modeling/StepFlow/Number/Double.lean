/-! Binary floating-point numbers of 64 bits, held as their encoding so that two
of them can be compared for identity. -/
namespace StepFlow

/-- A 64-bit floating-point number. Values that are not a number are told apart by their
fraction bits. -/
structure Double where
  bits : UInt64
  deriving DecidableEq

namespace Double

/-- The one value that is not a number and goes by a name. -/
def nan : Double := ⟨0x7ff8000000000000⟩

/-- A value that is not a number, and no other than those of its stamp. -/
def unnamedNan (stamp : Nat) : Double :=
  ⟨nan.bits ||| (UInt64.ofNat stamp &&& 0x7ffffffffffff)⟩

def zero : Double := ⟨0⟩

def infinity : Double := ⟨0x7ff0000000000000⟩

def ofFloat (x : Float) : Double :=
  if x.isNaN then nan else ⟨x.toBits⟩

def toFloat (x : Double) : Float :=
  Float.ofBits x.bits

def isNegative (x : Double) : Bool :=
  x.bits >>> 63 = 1

/-- The eleven exponent bits. -/
def exponentField (x : Double) : Nat :=
  ((x.bits >>> 52) &&& 0x7ff).toNat

/-- The fifty-two fraction bits. -/
def fractionField (x : Double) : Nat :=
  (x.bits &&& 0xfffffffffffff).toNat

def isFinite (x : Double) : Bool :=
  x.exponentField != 2047

def isNaN (x : Double) : Bool :=
  x.exponentField == 2047 && x.fractionField != 0

def neg (x : Double) : Double :=
  if x.isNaN then x else ⟨x.bits ^^^ 0x8000000000000000⟩

def isZero (x : Double) : Bool :=
  x.exponentField == 0 && x.fractionField == 0

/-- The magnitude of a finite number is `significand * 2 ^ (scale - 1074)`. -/
def significand (x : Double) : Nat :=
  if x.exponentField = 0 then x.fractionField else 0x10000000000000 + x.fractionField

def scale (x : Double) : Nat :=
  x.exponentField - 1

/-- The magnitude of a finite number as a fraction: numerator and denominator. -/
def ratio (x : Double) : Nat × Nat :=
  (x.significand * Nat.pow 2 x.scale, Nat.pow 2 1074)

/-- The integer that the number is equal to, if there is one. -/
def toInt? (x : Double) : Option Int :=
  if !x.isFinite then none
  else
    let (num, den) := x.ratio
    if num % den = 0 then
      some (if x.isNegative then -((num / den : Nat) : Int) else ((num / den : Nat) : Int))
    else none

/-- The quotient rounded to the nearest integer, a half to the even one. -/
def roundQuotient (num den : Nat) : Nat :=
  let floor := num / den
  let rest := 2 * (num % den)
  if rest < den || (rest = den && floor % 2 = 0) then floor else floor + 1

/-- The `e` with `2 ^ e ≤ num / den < 2 ^ (e + 1)`, for a positive fraction. -/
def binaryMagnitude (num den : Nat) : Int :=
  let e : Int := (num.log2 : Int) - den.log2
  if den * Nat.pow 2 e.toNat ≤ num * Nat.pow 2 (-e).toNat then e else e - 1

/-- The number nearest to a positive fraction. In units of the last place the significand
is an integer, and a carry out of it goes on in the exponent. -/
def ofRatio (num den : Nat) : Double :=
  let place := max (binaryMagnitude num den - 52) (-1074)
  let significand :=
    roundQuotient (num * Nat.pow 2 (-place).toNat) (den * Nat.pow 2 place.toNat)
  let bits := (place + 1074).toNat * 0x10000000000000 + significand
  if infinity.bits.toNat ≤ bits then infinity else ⟨UInt64.ofNat bits⟩

/-- The number nearest to a natural number; none when that is beyond the finite ones. -/
def ofNat? (n : Nat) : Option Double :=
  let nearest := if n = 0 then zero else ofRatio n 1
  if nearest.isFinite then some nearest else none

/-- The number nearest to `digits * 10 ^ exponent`. Exponents far outside the range
of the format are answered without forming the power. -/
def ofDecimal (digits : Nat) (exponent : Int) : Double :=
  let width : Int := (Nat.toDigits 10 digits).length
  if digits = 0 then zero
  else if 400 < width + exponent then infinity
  else if width + exponent < -400 then zero
  else ofRatio (digits * Nat.pow 10 exponent.toNat) (Nat.pow 10 (-exponent).toNat)

end Double

end StepFlow
