/-! Bytes as base-64 text. Reading skips characters that are no digits; writing breaks
lines after 57 bytes. -/
namespace StepFlow.Base64

def alphabet : List Char :=
  "ABCDEFGHIJKLMNOPQRSTUVWXYZabcdefghijklmnopqrstuvwxyz0123456789+/".toList

def digit (n : Nat) : Char :=
  alphabet.getD n '='

def value? (c : Char) : Option Nat :=
  alphabet.findIdx? (· = c)

/-- Why a text is no base-64 text. -/
inductive Fault where
  | padding
  /-- A single digit is left over after this many digits. -/
  | lone (digits : Nat)
  deriving DecidableEq

def Fault.text : Fault → String
  | padding => "Incorrect padding"
  | lone digits =>
    "Invalid base64-encoded string: number of data characters " ++
      s!"({digits}) cannot be 1 more than a multiple of 4"

/-- Bytes read so far, the last first; the digits read of the group at hand, and the
bits of them that are in no byte yet; the padding characters seen since a digit. -/
structure State where
  read : List UInt8
  place : Nat
  bits : Nat
  pads : Nat

def State.put (s : State) (value : Nat) : State :=
  match s.place with
  | 0 => ⟨s.read, 1, value, 0⟩
  | 1 => ⟨UInt8.ofNat (s.bits * 4 + value / 16) :: s.read, 2, value % 16, 0⟩
  | 2 => ⟨UInt8.ofNat (s.bits * 16 + value / 4) :: s.read, 3, value % 4, 0⟩
  | _ => ⟨UInt8.ofNat (s.bits * 64 + value) :: s.read, 0, 0, 0⟩

/-- Padding that completes a group ends the text. -/
def decodeFrom (s : State) : List Char → Except Fault (List UInt8)
  | [] =>
    if s.place = 0 then .ok s.read.reverse
    else if s.place = 1 then .error (.lone (s.read.length / 3 * 4 + 1))
    else .error .padding
  | c :: cs =>
    if c = '=' then
      if 2 ≤ s.place && 4 ≤ s.place + s.pads + 1 then .ok s.read.reverse
      else decodeFrom (if 2 ≤ s.place then { s with pads := s.pads + 1 } else s) cs
    else
      match value? c with
      | none => decodeFrom s cs
      | some value => decodeFrom (s.put value) cs

def decode (cs : List Char) : Except Fault (List UInt8) :=
  decodeFrom ⟨[], 0, 0, 0⟩ cs

/-- Four digits for each three bytes, padded at the end. -/
def encode : List UInt8 → List Char
  | [] => []
  | [a] =>
    let n := a.toNat * 16
    [digit (n / 64), digit (n % 64), '=', '=']
  | [a, b] =>
    let n := (a.toNat * 256 + b.toNat) * 4
    [digit (n / 4096), digit (n / 64 % 64), digit (n % 64), '=']
  | a :: b :: c :: rest =>
    let n := (a.toNat * 256 + b.toNat) * 256 + c.toNat
    digit (n / 262144) :: digit (n / 4096 % 64) :: digit (n / 64 % 64) :: digit (n % 64) ::
      encode rest

/-- Lines of 57 bytes, each ended by a line feed. -/
def encodeLines : Nat → List UInt8 → List Char
  | 0, _ => []
  | fuel + 1, content =>
    if content.isEmpty then []
    else encode (content.take 57) ++ '\n' :: encodeLines fuel (content.drop 57)

end StepFlow.Base64
