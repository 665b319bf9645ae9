/-! Surrogates: code points that stand two by two for one character beyond the first 65536, and
for none alone. A text may hold half a pair all the same. No character is there for it, so some
characters of private use stand in for the halves, and no text is taken that holds those
themselves. Main statement: what a text holds of a code point tells the code point. -/
namespace StepFlow.Surrogate

def isHigh (n : Nat) : Bool := 0xD800 ≤ n && n ≤ 0xDBFF

def isLow (n : Nat) : Bool := 0xDC00 ≤ n && n ≤ 0xDFFF

/-- The number that a pair stands for. -/
def joined (high low : Nat) : Nat :=
  0x10000 + (high - 0xD800) * 0x400 + (low - 0xDC00)

/-- The first of the characters that stand in for halves of pairs. -/
def firstStandIn : Nat := 0x10F000

/-- Whether the character of a code point is needed as a stand-in. -/
def isReserved (n : Nat) : Bool := firstStandIn ≤ n && n < firstStandIn + 0x800

/-- The character by which a text holds a code point. -/
def charOf (n : Nat) : Char :=
  if isHigh n || isLow n then Char.ofNat (firstStandIn + (n - 0xD800)) else Char.ofNat n

/-- Whether a character stands in for half a pair. -/
def isHalf (c : Char) : Bool := isReserved c.toNat

/-- The code point that a text holds by a character. -/
def codeOf (c : Char) : Nat :=
  if isHalf c then 0xD800 + (c.toNat - firstStandIn) else c.toNat

/-- The text holds characters only. -/
def isWhole (text : String) : Bool :=
  text.toList.all fun c => !isHalf c

theorem isReserved_iff {n : Nat} : isReserved n = true ↔ 0x10F000 ≤ n ∧ n < 0x10F800 := by
  rw [isReserved, firstStandIn, Bool.and_eq_true, decide_eq_true_eq, decide_eq_true_eq]

theorem isHalfCode_iff {n : Nat} : (isHigh n || isLow n) = true ↔ 0xD800 ≤ n ∧ n ≤ 0xDFFF := by
  simp only [isHigh, isLow, Bool.or_eq_true, Bool.and_eq_true, decide_eq_true_eq]
  omega

theorem toNat_ofNat {n : Nat} (valid : n.isValidChar) : (Char.ofNat n).toNat = n := by
  rw [Char.ofNat, dif_pos valid]
  rfl

/-- A text holds every code point that is not needed as a stand-in. -/
theorem codeOf_charOf {n : Nat} (inRange : n < 0x110000) (free : isReserved n = false) :
    codeOf (charOf n) = n := by
  unfold charOf
  split
  · rename_i half
    rw [isHalfCode_iff] at half
    have valid : (firstStandIn + (n - 0xD800)).isValidChar := by
      unfold Nat.isValidChar firstStandIn
      omega
    have standsIn : isHalf (Char.ofNat (firstStandIn + (n - 0xD800))) = true := by
      rw [isHalf, toNat_ofNat valid, isReserved_iff, firstStandIn]
      omega
    rw [codeOf, if_pos standsIn, toNat_ofNat valid]
    omega
  · rename_i whole
    rw [isHalfCode_iff] at whole
    have valid : n.isValidChar := by
      unfold Nat.isValidChar
      omega
    have itself : isHalf (Char.ofNat n) = false := by
      rw [isHalf, toNat_ofNat valid, free]
    rw [codeOf, itself, toNat_ofNat valid]
    rfl

theorem codeOf_of_isHalf {c : Char} (half : isHalf c = true) : 0xD800 ≤ codeOf c ∧ codeOf c ≤ 0xDFFF := by
  have range := isReserved_iff.mp half
  rw [codeOf, if_pos half, firstStandIn]
  omega

/-- Different characters hold different code points. -/
theorem codeOf_injective {a b : Char} (same : codeOf a = codeOf b) : a = b := by
  have inRange (c : Char) : c.toNat < 0xD800 ∨ 0xDFFF < c.toNat ∧ c.toNat < 0x110000 := c.valid
  have left := inRange a
  have right := inRange b
  refine Char.toNat_inj.mp ?_
  unfold codeOf at same
  split at same <;> rename_i half <;> split at same <;> rename_i halfToo <;>
    simp only [isHalf, isReserved_iff, firstStandIn] at half halfToo same <;> omega

/-- In the order of code points. -/
def precedes (a b : String) : Bool :=
  decide (a.toList.map codeOf < b.toList.map codeOf)

end StepFlow.Surrogate
