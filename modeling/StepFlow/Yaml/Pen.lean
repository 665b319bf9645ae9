import StepFlow.Text.Quoted
import StepFlow.Yaml.Style

/-! Writing scalars within a line width. The pen knows its column, whether it stands
behind a blank, and whether the line so far holds indentation and nesting marks only. -/
namespace StepFlow.Yaml

structure Pen where
  /-- What was written, the last piece first. -/
  pieces : List String
  column : Nat
  afterBlank : Bool
  onlyMarks : Bool

/-- Lines are folded at the first chance beyond this column. -/
def lineWidth : Nat := 80

namespace Pen

def fresh : Pen := ⟨[], 0, true, true⟩

def text (pen : Pen) : String :=
  String.join pen.pieces.reverse

def put (pen : Pen) (cs : List Char) : Pen :=
  { pen with pieces := String.ofList cs :: pen.pieces, column := pen.column + cs.length }

def breakLine (pen : Pen) (c : Char) : Pen :=
  ⟨String.singleton c :: pen.pieces, 0, true, true⟩

/-- Goes to a column, on a new line unless this one holds nothing but marks left of it. -/
def toColumn (pen : Pen) (indent : Nat) : Pen :=
  let pen :=
    if !pen.onlyMarks || indent < pen.column || (pen.column = indent && !pen.afterBlank) then
      pen.breakLine '\n'
    else pen
  if pen.column < indent then
    { pen.put (List.replicate (indent - pen.column) ' ') with afterBlank := true }
  else pen

/-- Writes a mark that needs a blank in front of it. -/
def mark (pen : Pen) (cs : List Char) : Pen :=
  let pen := if pen.afterBlank then pen.put cs else pen.put (' ' :: cs)
  { pen with afterBlank := false, onlyMarks := false }

/-- Writes a nesting mark, after which the line may still hold marks only. -/
def nest (pen : Pen) (c : Char) : Pen :=
  { pen.mark [c] with onlyMarks := pen.onlyMarks }

/-- Writes a mark that follows directly. -/
def close (pen : Pen) (cs : List Char) : Pen :=
  { pen.put cs with afterBlank := false, onlyMarks := false }

/-- Writes the breaks of a scalar. A first line feed takes two breaks, since one alone is
read as a space. -/
def breaks (pen : Pen) (indent : Nat) (cs : List Char) : Pen :=
  let pen := if cs.head? = some '\n' then pen.breakLine '\n' else pen
  (cs.foldl breakLine pen).toColumn indent

/-- Writes a run of spaces inside a scalar; a lone one beyond the width becomes a line
break. -/
def spaces (pen : Pen) (fold : Bool) (indent : Nat) (cs : List Char) : Pen :=
  if cs.length = 1 && lineWidth < pen.column && fold then pen.toColumn indent else pen.put cs

/-- A text without quotes on one line, folded at spaces. -/
def plainRuns (fold : Bool) (indent : Nat) : Nat → List Char → Pen → Pen
  | 0, _, pen => pen
  | fuel + 1, cs, pen =>
    match cs with
    | [] => pen
    | c :: _ =>
      let run := cs.takeWhile fun d => (d == ' ') == (c == ' ')
      let rest := cs.drop run.length
      let pen :=
        if c = ' ' then { pen.spaces fold indent run with afterBlank := false, onlyMarks := false }
        else pen.put run
      plainRuns fold indent fuel rest pen

def plain (fold : Bool) (indent : Nat) (cs : List Char) (pen : Pen) : Pen :=
  let pen := if pen.afterBlank then pen else pen.put [' ']
  plainRuns fold indent cs.length cs { pen with afterBlank := false, onlyMarks := false }

/-- Inside single quotes a quote is doubled. -/
def doubleQuotes (cs : List Char) : List Char :=
  cs.flatMap fun c => if c = '\'' then ['\'', '\''] else [c]

/-- Spaces, breaks and other characters by turns; spaces at either end are kept. -/
def singleRuns (fold : Bool) (indent : Nat) : Nat → Bool → List Char → Pen → Pen
  | 0, _, _, pen => pen
  | fuel + 1, isFirst, cs, pen =>
    match cs with
    | [] => pen
    | c :: _ =>
      let sort (d : Char) : Nat := if d = ' ' then 0 else if isWrittenBreak d then 1 else 2
      let run := cs.takeWhile fun d => sort d = sort c
      let rest := cs.drop run.length
      let pen :=
        if c = ' ' then pen.spaces (fold && !isFirst && !rest.isEmpty) indent run
        else if isWrittenBreak c then pen.breaks indent run
        else pen.put (doubleQuotes run)
      singleRuns fold indent fuel false rest pen

def single (fold : Bool) (indent : Nat) (cs : List Char) (pen : Pen) : Pen :=
  (singleRuns fold indent cs.length true cs (pen.mark ['\''])).close ['\'']

/-- Hexadecimal digits in capitals. -/
def upperHex (width n : Nat) : List Char :=
  (Quoted.hex width n).map Char.toUpper

/-- The escape of a character inside double quotes, if it needs one. -/
def escape? (c : Char) : Option (List Char) :=
  let n := Surrogate.codeOf c
  match c with
  | '\x00' => some ['\\', '0']
  | '\x07' => some ['\\', 'a']
  | '\x08' => some ['\\', 'b']
  | '\t' => some ['\\', 't']
  | '\n' => some ['\\', 'n']
  | '\x0b' => some ['\\', 'v']
  | '\x0c' => some ['\\', 'f']
  | '\r' => some ['\\', 'r']
  | '\x1b' => some ['\\', 'e']
  | '"' => some ['\\', '"']
  | '\\' => some ['\\', '\\']
  | '\x85' => some ['\\', 'N']
  | '\u2028' => some ['\\', 'L']
  | '\u2029' => some ['\\', 'P']
  | _ =>
    if c ≠ byteOrderMark && ((0x20 ≤ n && n ≤ 0x7E) || (0xA0 ≤ n && n ≤ 0xD7FF) ||
        (0xE000 ≤ n && n ≤ 0xFFFD)) then none
    else if n ≤ 0xFF then some ('\\' :: 'x' :: upperHex 2 n)
    else if n ≤ 0xFFFF then some ('\\' :: 'u' :: upperHex 4 n)
    else some ('\\' :: 'U' :: upperHex 8 n)

/-- Ends the line inside double quotes. A space that comes next needs a backslash, lest it
be taken for indentation. -/
def foldDouble (indent : Nat) (next : Option Char) (pen : Pen) : Pen :=
  let pen := { (pen.put ['\\']).toColumn indent with afterBlank := false, onlyMarks := false }
  if next = some ' ' then pen.put ['\\'] else pen

/-- Writes what follows the opening quote. `held` are the characters, last first, that
wait to be written together: lines end only where a space or nothing is held. -/
def doubleRuns (fold : Bool) (indent : Nat) : Bool → List Char → List Char → Pen → Pen
  | _, held, [], pen => pen.put held.reverse
  | isFirst, held, c :: rest, pen =>
    let mayFold := fold && !isFirst && !rest.isEmpty
    match escape? c with
    | some escape =>
      let pen := (if held.isEmpty then pen else pen.put held.reverse).put escape
      let pen :=
        if mayFold && lineWidth + 1 < pen.column then foldDouble indent rest.head? pen else pen
      doubleRuns fold indent false [] rest pen
    | none =>
      if mayFold && (c = ' ' || held.isEmpty) && lineWidth < pen.column + held.length then
        let pen := if held.isEmpty then pen else pen.put held.reverse
        doubleRuns fold indent false [c] rest (foldDouble indent (some c) pen)
      else doubleRuns fold indent false (c :: held) rest pen

def double (fold : Bool) (indent : Nat) (cs : List Char) (pen : Pen) : Pen :=
  (doubleRuns fold indent true [] cs (pen.mark ['"'])).close ['"']

/-- The lines of a literal scalar, the header being written. -/
def literalLines (indent : Nat) : List Char → Pen → Pen
  | [], pen => pen
  | '\n' :: cs, pen => literalLines indent cs (pen.breakLine '\n')
  | c :: cs, pen =>
    let pen := if pen.column = 0 then pen.toColumn indent else pen
    literalLines indent cs (pen.put [c])

end Pen

end StepFlow.Yaml
