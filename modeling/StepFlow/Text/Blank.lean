/-! White space around texts. -/
namespace StepFlow

/-- White space in the broad sense: the ASCII separators, the next-line and
no-break characters, and every Unicode space or line separator. -/
def isBlank (c : Char) : Bool :=
  let n := c.toNat
  (9 ≤ n && n ≤ 13) || (28 ≤ n && n ≤ 32) || n == 0x85 || n == 0xA0 || n == 0x1680 ||
    (0x2000 ≤ n && n ≤ 0x200A) || n == 0x2028 || n == 0x2029 || n == 0x202F || n == 0x205F ||
    n == 0x3000

/-- White space around numerals. The ASCII separators are none. -/
def isNumeralSpace (c : Char) : Bool :=
  isBlank c && !(28 ≤ c.toNat && c.toNat ≤ 31)

/-- The characters without those of a class at either end. -/
def stripChars (isOuter : Char → Bool) (cs : List Char) : List Char :=
  ((cs.dropWhile isOuter).reverse.dropWhile isOuter).reverse

/-- The characters without blanks at either end. -/
def trimChars (cs : List Char) : List Char :=
  stripChars isBlank cs

/-- The text without blanks at either end. -/
def trim (s : String) : String :=
  String.ofList (trimChars s.toList)

/-- Nothing but blanks, or nothing at all. -/
def isBlankText (s : String) : Bool :=
  s.toList.all isBlank

/-- The characters without a line feed at their end. -/
def dropLineFeed (cs : List Char) : List Char :=
  if cs.getLast? = some '\n' then cs.dropLast else cs

/-- The text with ASCII capitals made small; every other character stays. -/
def lowerAscii (s : String) : String :=
  s.map Char.toLower

end StepFlow
