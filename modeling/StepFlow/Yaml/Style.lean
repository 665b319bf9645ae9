import StepFlow.Text.Surrogate
import StepFlow.Yaml.Cursor
import StepFlow.Yaml.Tag

/-! In which styles a text can be written so that it reads back. -/
namespace StepFlow.Yaml

/-- The line breaks that a written scalar may hold without an escape. -/
def isWrittenBreak (c : Char) : Bool :=
  c = '\n' || c = '\x85' || c = '\u2028' || c = '\u2029'

/-- Characters that only an escape can show. -/
def isSpecial (c : Char) : Bool :=
  let n := Surrogate.codeOf c
  !(c = '\n' || (0x20 ≤ n && n ≤ 0x7E) || n = 0x85 || (0xA0 ≤ n && n ≤ 0xD7FF) ||
    (0xE000 ≤ n && n ≤ 0xFFFD && n ≠ 0xFEFF) || (0x10000 ≤ n && n < 0x10FFFF))

/-- Whether two neighbours are of the given classes. -/
def hasNeighbours (p q : Char → Bool) : List Char → Bool
  | a :: b :: cs => (p a && q b) || hasNeighbours p q (b :: cs)
  | _ => false

/-- Whether a gap, or the end, comes next. -/
def gapFollows : List Char → Bool
  | [] => true
  | c :: _ => isGap c

/-- A first character that would be read as an indicator. -/
def startsAsIndicator : List Char → Bool
  | [] => false
  | c :: rest =>
    "#,[]\x7b\x7d&*!|>'\"%@\x60".toList.contains c ||
      ((c = '?' || c = ':' || c = '-') && gapFollows rest)

/-- A later colon in front of a gap, or number sign behind one. -/
def holdsIndicator : List Char → Bool
  | a :: b :: cs =>
    (b = ':' && gapFollows cs) || (b = '#' && isGap a) || holdsIndicator (b :: cs)
  | _ => false

def startsAsBoundary (cs : List Char) : Bool :=
  "---".toList.isPrefixOf cs || "...".toList.isPrefixOf cs

/-- A blank or a break at either end. -/
def hasOuterSpace (cs : List Char) : Bool :=
  let isSpace (c : Char) := c = ' ' || isWrittenBreak c
  (cs.head?.map isSpace).getD false || (cs.getLast?.map isSpace).getD false

/-- A space in front of a break, or a character that needs an escape. -/
def needsEscapes (cs : List Char) : Bool :=
  hasNeighbours (· = ' ') isWrittenBreak cs || cs.any isSpecial

/-- Whether the text can stand without quotes, whatever it would be read as. -/
def allowsPlain (cs : List Char) : Bool :=
  cs.isEmpty ||
    !(hasOuterSpace cs || cs.any isWrittenBreak || needsEscapes cs || startsAsBoundary cs ||
      startsAsIndicator cs || holdsIndicator cs)

/-- Whether single quotes are enough. -/
def allowsSingle (cs : List Char) : Bool :=
  !(hasNeighbours isWrittenBreak (· = ' ') cs || needsEscapes cs)

inductive Style where
  | plain
  | single
  | double
  deriving DecidableEq

/-- The simplest style in which a text reads back as a text. Keys stay on one line. -/
def styleOf (isKey : Bool) (text : String) : Style :=
  let cs := text.toList
  let multiline := cs.any isWrittenBreak
  let fitsKey := !(isKey && (cs.isEmpty || multiline))
  if resolve text = standardTag "str" && allowsPlain cs && fitsKey then .plain
  else if allowsSingle cs && !(isKey && multiline) then .single
  else .double

end StepFlow.Yaml
