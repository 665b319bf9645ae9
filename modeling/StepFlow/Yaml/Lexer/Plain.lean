import StepFlow.Yaml.Lexer.Quoted

/-! Reading scalars that stand without quotes. -/
namespace StepFlow.Yaml.Lexer

def isFlowMark (c : Char) : Bool :=
  c = ',' || c = '[' || c = ']' || c = '\x7b' || c = '\x7d'

/-- Whether a plain scalar goes on over this character. -/
def continuesPlain (inFlow : Bool) (at_ : Cursor) : Bool :=
  let c := at_.peek
  let after := at_.peek 1
  !(isGap c || (c = ':' && (isGap after || (inFlow && isFlowMark after))) ||
    (inFlow && (c = '?' || isFlowMark c)))

/-- The longest run without blanks. -/
def plainRun (inFlow : Bool) : Nat → Cursor → List Char × Cursor
  | 0, at_ => ([], at_)
  | fuel + 1, at_ =>
    if continuesPlain inFlow at_ then
      let (run, rest) := plainRun inFlow fuel at_.next
      (at_.peek :: run, rest)
    else ([], at_)

/-- Line breaks and leading spaces after a first line break; none when a document
boundary follows. -/
def plainBreaks : Nat → Cursor → Option (List Char) × Cursor
  | 0, at_ => (some [], at_)
  | fuel + 1, at_ =>
    let line := at_.skipSpaces
    if isBreak line.peek then
      let (first, rest) := line.lineBreak
      if rest.isBoundary then (none, rest)
      else
        let (more, rest) := plainBreaks fuel rest
        (more.map (first ++ ·), rest)
    else (some [], line)

/-- The blanks between two runs: what they contribute to the text, whether they hold a
line break, and where the next run would start. -/
def plainSpaces (at_ : Cursor) : List Char × Bool × Cursor :=
  let (spaces, after) := at_.takeWhile (· = ' ')
  if isBreak after.peek then
    let (first, rest) := after.lineBreak
    if rest.isBoundary then ([], true, rest)
    else
      match plainBreaks (rest.size + 1) rest with
      | (none, rest) => ([], true, rest)
      | (some more, rest) =>
        if first ≠ ['\n'] then (first ++ more, true, rest)
        else if more.isEmpty then ([' '], true, rest)
        else (more, true, rest)
  else (spaces, false, after)

/-- A text, the end of what was read, whether a line break was the last thing read, and
where reading stopped. -/
structure PlainText where
  text : List Char
  stop : Mark
  onNewLine : Bool
  rest : Cursor

/-- Reads runs as long as only blanks part them and, in block context, each starts at
the given column or right of it. `here` is the end so far, behind these spaces. Every run
takes a character at least, so the fuel is enough for each of them too. -/
def plainRuns (inFlow : Bool) (indent : Int) : Nat → PlainText → List Char → PlainText
  | 0, here, _ => here
  | fuel + 1, here, spaces =>
    if here.rest.peek = '#' then here
    else
      let (run, rest) := plainRun inFlow (fuel + 1) here.rest
      if run.isEmpty then here
      else
        let (gap, broken, after) := plainSpaces rest
        let next : PlainText := ⟨[], rest.mark, broken, after⟩
        let more :=
          if gap.isEmpty || after.peek = '#' || (!inFlow && after.column < indent) then next
          else plainRuns inFlow indent fuel next gap
        { more with text := spaces ++ run ++ more.text }

/-- A plain scalar inside a block at column `parent`, and whether a line break follows
it directly. -/
def plainScalar (inFlow : Bool) (parent : Int) (at_ : Cursor) : Token × Bool × Cursor :=
  let read := plainRuns inFlow (parent + 1) (at_.size + 1) ⟨[], at_.mark, false, at_⟩ []
  (⟨.scalar (String.ofList read.text) true, at_.mark, read.stop⟩, read.onNewLine, read.rest)

end StepFlow.Yaml.Lexer
