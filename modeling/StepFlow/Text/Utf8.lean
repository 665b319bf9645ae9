import StepFlow.Text.Quoted

/-! Reading bytes as UTF-8. A fault is the first byte that cannot start or continue a
character, with the run of bytes that belong to it. Halves of pairs cannot be written. -/
namespace StepFlow.Utf8

inductive Reason where
  | start
  | continuation
  | endOfData
  deriving DecidableEq

/-- A fault covers the bytes from `first` up to `last`, and `byte` is the first. -/
structure Fault where
  reason : Reason
  first : Nat
  last : Nat
  byte : UInt8
  deriving DecidableEq

/-- The bytes that may come second after a leading byte, and how many follow it. -/
def lead? (byte : UInt8) : Option (Nat × UInt8 × UInt8) :=
  if byte < 0xC2 then none
  else if byte < 0xE0 then some (1, 0x80, 0xBF)
  else if byte = 0xE0 then some (2, 0xA0, 0xBF)
  else if byte = 0xED then some (2, 0x80, 0x9F)
  else if byte < 0xF0 then some (2, 0x80, 0xBF)
  else if byte = 0xF0 then some (3, 0x90, 0xBF)
  else if byte < 0xF4 then some (3, 0x80, 0xBF)
  else if byte = 0xF4 then some (3, 0x80, 0x8F)
  else none

/-- The number of good continuation bytes, at most `count`, the first of them within
the given bounds. -/
def continuation : Nat → UInt8 → UInt8 → List UInt8 → Nat
  | 0, _, _, _ => 0
  | _ + 1, _, _, [] => 0
  | count + 1, low, high, byte :: bytes =>
    if low ≤ byte && byte ≤ high then continuation count 0x80 0xBF bytes + 1 else 0

/-- The first fault in the bytes, which start at `offset`. -/
def firstFault : Nat → Nat → List UInt8 → Option Fault
  | 0, _, _ => none
  | _ + 1, _, [] => none
  | fuel + 1, offset, byte :: bytes =>
    if byte < 0x80 then firstFault fuel (offset + 1) bytes
    else
      match lead? byte with
      | none => some ⟨.start, offset, offset + 1, byte⟩
      | some (count, low, high) =>
        let good := continuation count low high bytes
        if good = count then firstFault fuel (offset + 1 + count) (bytes.drop count)
        else if good = bytes.length then some ⟨.endOfData, offset, offset + 1 + good, byte⟩
        else some ⟨.continuation, offset, offset + 1 + good, byte⟩

def fault? (content : List UInt8) : Option Fault :=
  firstFault (content.length + 1) 0 content

def Reason.text : Reason → String
  | start => "invalid start byte"
  | continuation => "invalid continuation byte"
  | endOfData => "unexpected end of data"

def hexByte (byte : UInt8) : String :=
  let digits := Nat.toDigits 16 byte.toNat
  String.ofList (List.replicate (2 - digits.length) '0' ++ digits)

/-- A fault of one byte shows the byte, a longer one its first and last place. -/
def Fault.message (fault : Fault) : String :=
  if fault.last = fault.first + 1 then
    s!"'utf-8' codec can't decode byte 0x{hexByte fault.byte} in position {fault.first}: " ++
      fault.reason.text
  else
    s!"'utf-8' codec can't decode bytes in position {fault.first}-{fault.last - 1}: " ++
      fault.reason.text

/-- The text that the bytes encode. -/
def decode (content : ByteArray) : Except Fault String :=
  match String.fromUTF8? content with
  | some text => .ok text
  | none => .error ((fault? content.toList).getD ⟨.endOfData, 0, 1, 0⟩)

/-- What is said of a text with halves of pairs, those apart that are spared. It is said of the
whole run around the first of them. -/
def refusal? (isSpared : Nat → Bool) (text : String) : Option String :=
  let isRefused (c : Char) : Bool := Surrogate.isHalf c && !isSpared (Surrogate.codeOf c)
  let before := text.toList.takeWhile fun c => !isRefused c
  if text.toList.any isRefused then
    let first := before.length - (before.reverse.takeWhile Surrogate.isHalf).length
    let run := (text.toList.drop first).takeWhile Surrogate.isHalf
    some (Quoted.unencodable "utf-8" first run "surrogates not allowed")
  else none

theorem refusal?_eq_none_iff {isSpared : Nat → Bool} {text : String} :
    refusal? isSpared text = none ↔
      ∀ c ∈ text.toList, Surrogate.isHalf c = true → isSpared (Surrogate.codeOf c) = true := by
  simp [refusal?]

theorem decode_toUTF8 (text : String) : decode text.toUTF8 = .ok text := by
  have valid : text.toByteArray.IsValidUTF8 := text.isValidUTF8
  simp only [decode, String.fromUTF8?, String.toUTF8_eq_toByteArray, valid, dite_true]
  rfl

end StepFlow.Utf8
