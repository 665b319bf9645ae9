import StepFlow.Yaml.Lexer.Quoted

/-! Reading literal and folded block scalars. -/
namespace StepFlow.Yaml.Lexer

/-- What happens to the line breaks at the end. -/
inductive Chomping where
  | strip
  | clip
  | keep
  deriving DecidableEq

def chomping? (c : Char) : Option Chomping :=
  if c = '+' then some .keep else if c = '-' then some .strip else none

/-- An indentation digit, if one stands here. -/
def indentation (start : Mark) (at_ : Cursor) : Except Failure (Option Nat × Cursor) :=
  let c := at_.peek
  if c.isDigit then
    if c = '0' then failAt .blockScalar start .zeroIndentation at_.mark
    else .ok (some (c.toNat - 48), at_.next)
  else .ok (none, at_)

/-- The chomping mark and the indentation digit, in either order. -/
def blockHeader (start : Mark) (at_ : Cursor) :
    Except Failure (Chomping × Option Nat × Cursor) := do
  let (chomping, digit, rest) ←
    (match chomping? at_.peek with
    | some chomping => do
      let (digit, rest) ← indentation start at_.next
      pure (chomping, digit, rest)
    | none => do
      let (digit, rest) ← indentation start at_
      match digit, chomping? rest.peek with
      | some _, some chomping => pure (chomping, digit, rest.next)
      | _, _ => pure (Chomping.clip, digit, rest) :
      Except Failure (Chomping × Option Nat × Cursor))
  if isSpaceOrLineEnd rest.peek then return (chomping, digit, rest)
  else
    failAt .blockScalar start (.expected "chomping or indentation indicators" rest.peek) rest.mark

/-- The rest of a header line: spaces and a comment. -/
def ignoredLine (activity : Activity) (start : Mark) (at_ : Cursor) : Except Failure Cursor :=
  let after := at_.skipSpaces.skipComment
  if isLineEnd after.peek then .ok after.lineBreak.2
  else failAt activity start (.expected "a comment or a line break" after.peek) after.mark

/-- Skips spaces that lie left of a column. -/
def skipToColumn (indent : Int) : Nat → Cursor → Cursor
  | 0, at_ => at_
  | fuel + 1, at_ =>
    if at_.column < indent && at_.peek = ' ' then skipToColumn indent fuel at_.next else at_

/-- Empty lines in front of the first line with text, and the widest indentation among
them and that line. -/
def detectIndent (widest : Int) : Nat → Cursor → List Char × Int × Mark × Cursor
  | 0, at_ => ([], widest, at_.mark, at_)
  | fuel + 1, at_ =>
    let after := at_.skipSpaces
    let widest := if after.mark.index = at_.mark.index then widest else max widest after.column
    if isBreak after.peek then
      let (first, rest) := after.lineBreak
      let (more, widest, stop, rest') := detectIndent widest fuel rest
      (first ++ more, widest, stop, rest')
    else ([], widest, at_.mark, after)

/-- Empty lines at a known indentation. -/
def blockBreaks (indent : Int) : Nat → Cursor → List Char × Mark × Cursor
  | 0, at_ => ([], at_.mark, at_)
  | fuel + 1, at_ =>
    let after := skipToColumn indent at_.size at_
    if isBreak after.peek then
      let (first, rest) := after.lineBreak
      let (more, stop, rest') := blockBreaks indent fuel rest
      (first ++ more, stop, rest')
    else ([], at_.mark, after)

/-- The lines of a scalar, with the last line break and the breaks behind it apart. -/
structure BlockText where
  text : List Char
  lastBreak : List Char
  trailing : List Char
  stop : Mark
  rest : Cursor

/-- Reads lines as long as they start at the scalar's column. In a folded scalar a line
feed between two lines that start with text becomes a space, unless empty lines follow
it; then those alone are kept. -/
def blockLines (folded : Bool) (indent : Int) :
    Nat → List Char → List Char → Mark → Cursor → BlockText
  | 0, text, breaks, stop, at_ => ⟨text, [], breaks, stop, at_⟩
  | fuel + 1, text, breaks, _, at_ =>
    let startsWithText := at_.peek ≠ ' ' && at_.peek ≠ '\t'
    let (line, lineEnd) := at_.takeWhile fun c => !isLineEnd c
    let text := text ++ breaks ++ line
    let (lineBreak, rest) := lineEnd.lineBreak
    let (breaks, stop, rest) := blockBreaks indent (rest.size + 1) rest
    if rest.column = indent && !rest.atEnd then
      let nextStartsWithText := rest.peek ≠ ' ' && rest.peek ≠ '\t'
      let joint :=
        if folded && lineBreak = ['\n'] && startsWithText && nextStartsWithText then
          (if breaks.isEmpty then [' '] else [])
        else lineBreak
      blockLines folded indent fuel (text ++ joint) breaks stop rest
    else ⟨text, lineBreak, breaks, stop, rest⟩

/-- A block scalar from its indicator on, inside a block at column `parent`. -/
def blockScalar (parent : Int) (at_ : Cursor) : Except Failure (Token × Cursor) := do
  let folded := at_.peek = '>'
  let (chomping, digit, rest) ← blockHeader at_.mark at_.next
  let body ← ignoredLine .blockScalar at_.mark rest
  let least := max (parent + 1) 1
  let fuel := body.size + 1
  let (indent, breaks, stop, rest) : Int × List Char × Mark × Cursor :=
    match digit with
    | none =>
      let (breaks, widest, stop, rest) := detectIndent 0 fuel body
      (max least widest, breaks, stop, rest)
    | some digit =>
      let indent := least + digit - 1
      let (breaks, stop, rest) := blockBreaks indent fuel body
      (indent, breaks, stop, rest)
  let result :=
    if rest.column = indent && !rest.atEnd then
      blockLines folded indent (rest.size + 1) [] breaks stop rest
    else ⟨[], [], breaks, stop, rest⟩
  let tail := match chomping with
    | .strip => []
    | .clip => result.lastBreak
    | .keep => result.lastBreak ++ result.trailing
  return (⟨.scalar (String.ofList (result.text ++ tail)) false, at_.mark, result.stop⟩, result.rest)

end StepFlow.Yaml.Lexer
