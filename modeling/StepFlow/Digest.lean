import StepFlow.Text.Quoted

/-! SHA-256 digests, by which versions of a file are told apart. -/
namespace StepFlow.Digest

/-- Fractions of the square roots of the first eight primes. -/
def start : List UInt32 := [
  0x6a09e667, 0xbb67ae85, 0x3c6ef372, 0xa54ff53a, 0x510e527f, 0x9b05688c,
  0x1f83d9ab, 0x5be0cd19]

/-- Fractions of the cube roots of the first sixty-four primes. -/
def constants : List UInt32 := [
  0x428a2f98, 0x71374491, 0xb5c0fbcf, 0xe9b5dba5, 0x3956c25b, 0x59f111f1,
  0x923f82a4, 0xab1c5ed5, 0xd807aa98, 0x12835b01, 0x243185be, 0x550c7dc3,
  0x72be5d74, 0x80deb1fe, 0x9bdc06a7, 0xc19bf174, 0xe49b69c1, 0xefbe4786,
  0x0fc19dc6, 0x240ca1cc, 0x2de92c6f, 0x4a7484aa, 0x5cb0a9dc, 0x76f988da,
  0x983e5152, 0xa831c66d, 0xb00327c8, 0xbf597fc7, 0xc6e00bf3, 0xd5a79147,
  0x06ca6351, 0x14292967, 0x27b70a85, 0x2e1b2138, 0x4d2c6dfc, 0x53380d13,
  0x650a7354, 0x766a0abb, 0x81c2c92e, 0x92722c85, 0xa2bfe8a1, 0xa81a664b,
  0xc24b8b70, 0xc76c51a3, 0xd192e819, 0xd6990624, 0xf40e3585, 0x106aa070,
  0x19a4c116, 0x1e376c08, 0x2748774c, 0x34b0bcb5, 0x391c0cb3, 0x4ed8aa4a,
  0x5b9cca4f, 0x682e6ff3, 0x748f82ee, 0x78a5636f, 0x84c87814, 0x8cc70208,
  0x90befffa, 0xa4506ceb, 0xbef9a3f7, 0xc67178f2]

def rotateRight (x : UInt32) (n : UInt32) : UInt32 :=
  (x >>> n) ||| (x <<< (32 - n))

/-- The bytes of a number, the highest first. -/
def bigEndian (width n : Nat) : List UInt8 :=
  (List.range width).map fun place => UInt8.ofNat (n >>> (8 * (width - 1 - place)))

/-- A one bit, zeros, and the length in bits, up to a multiple of sixty-four bytes. -/
def pad (length : Nat) : List UInt8 :=
  0x80 :: List.replicate ((119 - length % 64) % 64) 0 ++ bigEndian 8 (8 * length)

/-- The words of four bytes each. -/
def words : List UInt8 → List UInt32
  | a :: b :: c :: d :: bytes =>
    let word := (a.toUInt32 <<< 24) ||| (b.toUInt32 <<< 16) ||| (c.toUInt32 <<< 8) ||| d.toUInt32
    word :: words bytes
  | _ => []

/-- One more word of the schedule, from the last sixteen, the latest first. -/
def nextWord (latest : List UInt32) : UInt32 :=
  let w (back : Nat) := latest.getD (back - 1) 0
  let s0 := rotateRight (w 15) 7 ^^^ rotateRight (w 15) 18 ^^^ (w 15 >>> 3)
  let s1 := rotateRight (w 2) 17 ^^^ rotateRight (w 2) 19 ^^^ (w 2 >>> 10)
  w 16 + s0 + w 7 + s1

/-- So many words more, the latest first. -/
def extend : Nat → List UInt32 → List UInt32
  | 0, latest => latest
  | count + 1, latest => extend count (nextWord latest :: latest)

/-- The sixty-four words of a block of sixteen. -/
def schedule (block : List UInt32) : List UInt32 :=
  (extend 48 block.reverse).reverse

/-- The eight words between two rounds. -/
structure State where
  (a b c d e f g h : UInt32)

def State.ofList (words : List UInt32) : State :=
  let w (n : Nat) := words.getD n 0
  ⟨w 0, w 1, w 2, w 3, w 4, w 5, w 6, w 7⟩

def State.toList (s : State) : List UInt32 :=
  [s.a, s.b, s.c, s.d, s.e, s.f, s.g, s.h]

def State.round (s : State) (input : UInt32 × UInt32) : State :=
  let s1 := rotateRight s.e 6 ^^^ rotateRight s.e 11 ^^^ rotateRight s.e 25
  let choice := (s.e &&& s.f) ^^^ (~~~s.e &&& s.g)
  let first := s.h + s1 + choice + input.1 + input.2
  let s0 := rotateRight s.a 2 ^^^ rotateRight s.a 13 ^^^ rotateRight s.a 22
  let majority := (s.a &&& s.b) ^^^ (s.a &&& s.c) ^^^ (s.b &&& s.c)
  ⟨first + (s0 + majority), s.a, s.b, s.c, s.d + first, s.e, s.f, s.g⟩

/-- Takes in one block. -/
def compress (words block : List UInt32) : List UInt32 :=
  let last := (constants.zip (schedule block)).foldl State.round (State.ofList words)
  List.zipWith (· + ·) words last.toList

/-- Takes in so many blocks. -/
def compressAll : Nat → List UInt32 → List UInt32 → List UInt32
  | 0, state, _ => state
  | count + 1, state, input =>
    compressAll count (compress state (input.take 16)) (input.drop 16)

def digestWords (content : ByteArray) : List UInt32 :=
  let input := words (content.toList ++ pad content.size)
  compressAll (input.length / 16) start input

/-- The digest in hexadecimal digits. -/
def text (content : ByteArray) : String :=
  String.ofList ((digestWords content).flatMap fun word => Quoted.hex 8 word.toNat)

end StepFlow.Digest
