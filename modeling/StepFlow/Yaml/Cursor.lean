/-! A place in a text: what is left to read, and how far reading has come. -/
namespace StepFlow.Yaml

/-- A place, counted in characters, lines and columns from zero. -/
structure Mark where
  index : Nat
  line : Nat
  column : Nat
  deriving DecidableEq

def isBreak (c : Char) : Bool :=
  c = '\n' || c = '\r' || c = '\x85' || c = '\u2028' || c = '\u2029'

/-- The end of the text reads as the null character, which no readable text contains. -/
def endMark : Char := '\x00'

def isLineEnd (c : Char) : Bool :=
  c = endMark || isBreak c

def isSpaceOrLineEnd (c : Char) : Bool :=
  c = ' ' || isLineEnd c

/-- What may follow an indicator that must stand alone. -/
def isGap (c : Char) : Bool :=
  c = '\t' || isSpaceOrLineEnd c

def byteOrderMark : Char := '\uFEFF'

structure Cursor where
  rest : List Char
  mark : Mark
  /-- How many characters the whole text has; what is left has no more. -/
  size : Nat

namespace Cursor

def ofText (text : String) : Cursor :=
  ⟨text.toList, ⟨0, 0, 0⟩, text.length⟩

def column (at_ : Cursor) : Int := at_.mark.column

def line (at_ : Cursor) : Nat := at_.mark.line

def peek (at_ : Cursor) (n : Nat := 0) : Char :=
  at_.rest.getD n endMark

def atEnd (at_ : Cursor) : Bool :=
  at_.rest.isEmpty

/-- The place after one more character. A carriage return ends a line only when no
line feed follows, and a byte order mark takes no column. -/
def next (at_ : Cursor) : Cursor :=
  match at_.rest with
  | [] => at_
  | c :: rest =>
    let m := at_.mark
    let endsLine := isBreak c && !(c = '\r' && rest.head? = some '\n')
    let mark : Mark :=
      if endsLine then ⟨m.index + 1, m.line + 1, 0⟩
      else if c = byteOrderMark then ⟨m.index + 1, m.line, m.column⟩
      else ⟨m.index + 1, m.line, m.column + 1⟩
    { at_ with rest, mark }

def skip (at_ : Cursor) : Nat → Cursor
  | 0 => at_
  | n + 1 => at_.next.skip n

/-- Reads the longest run of characters of one class. -/
def takeWhile (at_ : Cursor) (p : Char → Bool) : List Char × Cursor :=
  let run := at_.rest.takeWhile p
  (run, at_.skip run.length)

def skipWhile (at_ : Cursor) (p : Char → Bool) : Cursor :=
  (at_.takeWhile p).2

def skipSpaces (at_ : Cursor) : Cursor :=
  at_.skipWhile (· = ' ')

/-- Reads one line break, if there is one; all but the two Unicode separators read as
a line feed. -/
def lineBreak (at_ : Cursor) : List Char × Cursor :=
  let c := at_.peek
  if c = '\r' && at_.peek 1 = '\n' then (['\n'], at_.skip 2)
  else if c = '\r' || c = '\n' || c = '\x85' then (['\n'], at_.next)
  else if c = '\u2028' || c = '\u2029' then ([c], at_.next)
  else ([], at_)

/-- Skips the comment that starts here, up to the end of its line. -/
def skipComment (at_ : Cursor) : Cursor :=
  if at_.peek = '#' then at_.skipWhile fun c => !isLineEnd c else at_

/-- Whether three equal marks of a document boundary stand here, on their own. -/
def isBoundary (at_ : Cursor) : Bool :=
  let marks := at_.rest.take 3
  (marks = ['-', '-', '-'] || marks = ['.', '.', '.']) && isGap (at_.peek 3)

end Cursor

end StepFlow.Yaml
