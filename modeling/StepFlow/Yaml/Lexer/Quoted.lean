import StepFlow.Text.Surrogate
import StepFlow.Yaml.Fault
import StepFlow.Yaml.Token

/-! Reading scalars between quotes. Single quotes know one escape, the doubled quote;
double quotes know many. Line breaks inside fold. -/
namespace StepFlow.Yaml.Lexer

/-- A problem at a place, found while reading what began at another. -/
def failAt {α : Type} (activity : Activity) (start : Mark) (problem : Problem) (at_ : Mark) :
    Except Failure α :=
  .error (.fault ⟨.tokens, some (activity, start), problem, at_⟩)

def isHexDigit (c : Char) : Bool :=
  ('0' ≤ c && c ≤ '9') || ('a' ≤ c && c ≤ 'f') || ('A' ≤ c && c ≤ 'F')

def hexDigit (c : Char) : Nat :=
  if c ≤ '9' then c.toNat - 48
  else if c ≤ 'F' then c.toNat - 55
  else c.toNat - 87

def hexNumber (digits : List Char) : Nat :=
  digits.foldl (fun n c => n * 16 + hexDigit c) 0

/-- Escapes that stand for one fixed character. -/
def fixedEscape? (c : Char) : Option Char :=
  match c with
  | '0' => some '\x00'
  | 'a' => some '\x07'
  | 'b' => some '\x08'
  | 't' => some '\x09'
  | '\t' => some '\x09'
  | 'n' => some '\x0a'
  | 'v' => some '\x0b'
  | 'f' => some '\x0c'
  | 'r' => some '\x0d'
  | 'e' => some '\x1b'
  | ' ' => some ' '
  | '"' => some '"'
  | '\\' => some '\\'
  | '/' => some '/'
  | 'N' => some '\x85'
  | '_' => some '\xa0'
  | 'L' => some '\u2028'
  | 'P' => some '\u2029'
  | _ => none

/-- How many hexadecimal digits follow an escape for a code point. -/
def codeEscape? (c : Char) : Option Nat :=
  match c with
  | 'x' => some 2
  | 'u' => some 4
  | 'U' => some 8
  | _ => none

/-- The line breaks, and the blanks at the start of lines, from a line start on. No
document boundary may come before the closing quote. -/
def quotedBreaks (start : Mark) : Nat → Cursor → Except Failure (List Char × Cursor)
  | 0, at_ => .ok ([], at_)
  | fuel + 1, at_ =>
    if at_.isBoundary then failAt .quoted start .documentSeparator at_.mark
    else
      let line := at_.skipWhile fun c => c = ' ' || c = '\t'
      if isBreak line.peek then do
        let (first, rest) := line.lineBreak
        let (more, rest) ← quotedBreaks start fuel rest
        return (first ++ more, rest)
      else .ok ([], line)

/-- Blanks and line breaks inside quotes: a single line feed becomes a space, further
ones are kept. -/
def quotedSpaces (start : Mark) (at_ : Cursor) : Except Failure (List Char × Cursor) := do
  let (blanks, after) := at_.takeWhile fun c => c = ' ' || c = '\t'
  if after.atEnd then failAt .quoted start .endOfStream after.mark
  else if isBreak after.peek then
    let (first, rest) := after.lineBreak
    let (more, rest) ← quotedBreaks start (rest.size + 1) rest
    if first ≠ ['\n'] then return (first ++ more, rest)
    else if more.isEmpty then return ([' '], rest)
    else return (more, rest)
  else return (blanks, after)

/-- The character that an escape names, the backslash being read, and what follows. -/
def quotedEscape (start : Mark) (at_ : Cursor) : Except Failure (List Char × Cursor) :=
  let c := at_.peek
  match fixedEscape? c, codeEscape? c with
  | some plain, _ => .ok ([plain], at_.next)
  | none, some count =>
    let digits := at_.next
    match (List.range count).find? fun k => !isHexDigit (digits.peek k) with
    | some k => failAt .doubleQuoted start (.hexDigits count (digits.peek k)) digits.mark
    | none =>
      let code := hexNumber (digits.rest.take count)
      if 0x10FFFF < code then .error (.value (.codePoint code))
      else if Surrogate.isReserved code then .error .outside
      else .ok ([Surrogate.charOf code], digits.skip count)
  | none, none =>
    if isBreak c then quotedBreaks start (at_.size + 1) at_.lineBreak.2
    else failAt .doubleQuoted start (.unknownEscape c) at_.mark

def isQuotedText (c : Char) : Bool :=
  !(c = '\'' || c = '"' || c = '\\' || isGap c)

/-- Everything up to a blank, a line break, the end, or the closing quote. -/
def quotedText (double : Bool) (start : Mark) : Nat → Cursor → Except Failure (List Char × Cursor)
  | 0, at_ => .ok ([], at_)
  | fuel + 1, at_ => do
    let (run, at_) := at_.takeWhile isQuotedText
    let c := at_.peek
    let piece : Option (List Char × Cursor) ←
      if !double && c = '\'' && at_.peek 1 = '\'' then pure (some (['\''], at_.skip 2))
      else if (double && c = '\'') || (!double && (c = '"' || c = '\\')) then
        pure (some ([c], at_.next))
      else if double && c = '\\' then (quotedEscape start at_.next).map some
      else pure none
    match piece with
    | none => return (run, at_)
    | some (piece, rest) =>
      let (more, rest) ← quotedText double start fuel rest
      return (run ++ piece ++ more, rest)

/-- From inside the quotes to behind the closing one. Every round takes a character at
least, so the fuel is enough for the text of each round too. -/
def quotedRest (double : Bool) (start : Mark) : Nat → Cursor → Except Failure (List Char × Cursor)
  | 0, at_ => failAt .quoted start .endOfStream at_.mark
  | fuel + 1, at_ => do
    let (text, at_) ← quotedText double start (fuel + 1) at_
    if at_.peek = (if double then '"' else '\'') then return (text, at_.next)
    else
      let (spaces, at_) ← quotedSpaces start at_
      let (more, at_) ← quotedRest double start fuel at_
      return (text ++ spaces ++ more, at_)

/-- A scalar from its opening quote on. -/
def quotedScalar (at_ : Cursor) : Except Failure (Token × Cursor) := do
  let double := at_.peek = '"'
  let (text, rest) ← quotedRest double at_.mark (at_.size + 1) at_.next
  return (⟨.scalar (String.ofList text) false, at_.mark, rest.mark⟩, rest)

end StepFlow.Yaml.Lexer
