import StepFlow.Host
import StepFlow.Number.Digits
import StepFlow.Text.Surrogate
import StepFlow.Value.Basic

/-! Reading JSON text. A fault names what was expected and where; the numbers
`NaN`, `Infinity` and `-Infinity` are read as well, and of equal keys the first
keeps its place and the last gives the value. -/
namespace StepFlow.Json

/-- What is wrong with a text that is not JSON. -/
inductive Reason where
  | value
  | propertyName
  | colon
  | comma
  | extraData
  | unterminated
  | controlCharacter
  | escape
  | unicodeEscape
  | byteOrderMark
  /-- An integer is longer than integers may be. -/
  | tooManyDigits (digits : Nat)
  /-- Arrays and objects are nested more deeply than they may be. -/
  | tooDeep
  /-- Two halves make a character that no text holds. -/
  | outside
  deriving DecidableEq

/-- A fault at an offset, counted in characters from the start. -/
structure Fault where
  reason : Reason
  offset : Nat
  deriving DecidableEq

def Reason.text : Reason → String
  | value => "Expecting value"
  | propertyName => "Expecting property name enclosed in double quotes"
  | colon => "Expecting ':' delimiter"
  | comma => "Expecting ',' delimiter"
  | extraData => "Extra data"
  | unterminated => "Unterminated string starting at"
  | controlCharacter => "Invalid control character at"
  | escape => "Invalid \\escape"
  | unicodeEscape => "Invalid \\uXXXX escape"
  | byteOrderMark => "Unexpected UTF-8 BOM (decode using utf-8-sig)"
  | tooManyDigits digits => s!"Integer of {digits} digits"
  | tooDeep => "Too many nested values"
  | outside => ""

/-- The line and the column of an offset, both from one. -/
def place (text : String) (offset : Nat) : Nat × Nat :=
  (text.toList.take offset).foldl
    (fun at_ c => if c = '\n' then (at_.1 + 1, 1) else (at_.1, at_.2 + 1)) (1, 1)

def Fault.message (text : String) (fault : Fault) : String :=
  let (line, column) := place text fault.offset
  s!"{fault.reason.text}: line {line} column {column} (char {fault.offset})"

/-- What is left of the text, and how much has been read. -/
structure Input where
  rest : List Char
  offset : Nat

namespace Input

def fail {α : Type} (input : Input) (reason : Reason) : Except Fault α :=
  .error ⟨reason, input.offset⟩

def drop (input : Input) (n : Nat) : Input :=
  ⟨input.rest.drop n, input.offset + n⟩

def isSpace (c : Char) : Bool :=
  c = ' ' || c = '\t' || c = '\n' || c = '\r'

def skipSpace (input : Input) : Input :=
  input.drop (input.rest.takeWhile isSpace).length

end Input

def hexValue? (c : Char) : Option Nat :=
  if '0' ≤ c ∧ c ≤ '9' then some (c.toNat - 48)
  else if 'a' ≤ c ∧ c ≤ 'f' then some (c.toNat - 87)
  else if 'A' ≤ c ∧ c ≤ 'F' then some (c.toNat - 55)
  else none

/-- The number that four hexadecimal digits spell. -/
def hexNumber? (digits : List Char) : Option Nat :=
  digits.foldl (fun n c => do return (← n) * 16 + (← hexValue? c)) (some 0)

def simpleEscape? (c : Char) : Option Char :=
  match c with
  | '"' => some '"'
  | '\\' => some '\\'
  | '/' => some '/'
  | 'b' => some '\x08'
  | 'f' => some '\x0c'
  | 'n' => some '\n'
  | 'r' => some '\r'
  | 't' => some '\t'
  | _ => none

/-- The number of a `u` escape whose digits start here. At least one more character
must follow the four digits. -/
def unicodeEscape (digits : Input) : Except Fault Nat :=
  if (digits.rest.take 5).length < 5 then .error ⟨.unicodeEscape, digits.offset - 1⟩
  else
    match hexNumber? (digits.rest.take 4) with
    | some n => .ok n
    | none => .error ⟨.unicodeEscape, digits.offset - 1⟩

/-- The characters of a string whose opening quote is before this place, and what
follows the closing one. -/
def stringBody (start : Nat) : Nat → Input → List Char → Except Fault (String × Input)
  | 0, _, _ => .error ⟨.unterminated, start⟩
  | fuel + 1, input, read =>
    match input.rest with
    | [] => .error ⟨.unterminated, start⟩
    | '"' :: _ => .ok (String.ofList read.reverse, input.drop 1)
    | '\\' :: [] => .error ⟨.unterminated, start⟩
    | '\\' :: 'u' :: _ => do
      let first ← unicodeEscape (input.drop 2)
      let after := input.drop 6
      let paired := Surrogate.isHigh first && 6 < (after.rest.take 7).length &&
        "\\u".toList.isPrefixOf after.rest
      if paired then
        let second ← unicodeEscape (after.drop 2)
        if Surrogate.isLow second then
          let code := Surrogate.joined first second
          if Surrogate.isReserved code then input.fail .outside
          else stringBody start fuel (after.drop 6) (Surrogate.charOf code :: read)
        else stringBody start fuel after (Surrogate.charOf first :: read)
      else stringBody start fuel after (Surrogate.charOf first :: read)
    | '\\' :: c :: _ =>
      match simpleEscape? c with
      | some plain => stringBody start fuel (input.drop 2) (plain :: read)
      | none => input.fail .escape
    | c :: _ =>
      if c.toNat ≤ 0x1f then input.fail .controlCharacter
      else stringBody start fuel (input.drop 1) (c :: read)

/-- Reads a string from its opening quote on. -/
def string (input : Input) : Except Fault (String × Input) :=
  stringBody input.offset (input.rest.length + 1) (input.drop 1) []

def natOfDigits (digits : List Char) : Nat :=
  digits.foldl (fun n c => n * 10 + (c.toNat - 48)) 0

/-- The whole digits of a number: a zero alone, or digits that start with another. -/
def wholeDigits : List Char → List Char
  | '0' :: _ => ['0']
  | cs => cs.takeWhile Char.isDigit

/-- A point with at least one digit after it. -/
def fractionDigits : List Char → List Char
  | '.' :: cs => cs.takeWhile Char.isDigit
  | _ => []

/-- The length and the value of an exponent, when a digit follows its mark and sign. -/
def exponentPart : List Char → Nat × Int
  | mark :: cs =>
    if mark = 'e' || mark = 'E' then
      let sign := cs.takeWhile fun c => c = '+' || c = '-'
      let digits := (cs.drop sign.length).takeWhile Char.isDigit
      if 1 < sign.length || digits.isEmpty then (0, 0)
      else
        let size : Int := natOfDigits digits
        (1 + sign.length + digits.length, if sign = ['-'] then -size else size)
    else (0, 0)
  | [] => (0, 0)

/-- Reads a number: an integer unless it has a fraction or an exponent. -/
def number (input : Input) : Except Fault (Value × Input) :=
  let negative := "-".toList.isPrefixOf input.rest
  let body := if negative then input.drop 1 else input
  let whole := wholeDigits body.rest
  if whole.isEmpty then input.fail .value
  else
    let afterWhole := body.drop whole.length
    let fraction := fractionDigits afterWhole.rest
    let afterFraction :=
      if fraction.isEmpty then afterWhole else afterWhole.drop (fraction.length + 1)
    let (size, exponent) := exponentPart afterFraction.rest
    let rest := afterFraction.drop size
    if fraction.isEmpty && size = 0 then
      if digitLimit < whole.length then input.fail (.tooManyDigits whole.length)
      else
        let n : Int := natOfDigits whole
        .ok (.int (if negative then -n else n), rest)
    else
      let magnitude := Double.ofDecimal (natOfDigits (whole ++ fraction))
        (exponent - fraction.length)
      .ok (.scalar (.float (if negative then magnitude.neg else magnitude)), rest)

/-- The values that are written as words. -/
def words : List (List Char × Value) :=
  [("null".toList, .null), ("true".toList, .bool true), ("false".toList, .bool false),
    ("NaN".toList, .scalar (.float .nan)), ("Infinity".toList, .scalar (.float .infinity)),
    ("-Infinity".toList, .scalar (.float Double.infinity.neg))]

/-- Reads a value that has no parts. -/
def leaf (input : Input) : Except Fault (Value × Input) :=
  match words.find? fun word => word.1.isPrefixOf input.rest with
  | some (word, value) => .ok (value, input.drop word.length)
  | none => number input

mutual

/-- Reads a value in which so many levels of arrays and objects may be nested. -/
def value (levels : Nat) : Nat → Input → Except Fault (Value × Input)
  | 0, input => input.fail .value
  | fuel + 1, input =>
    match input.rest, levels with
    | [], _ => input.fail .value
    | '"' :: _, _ => do
      let (s, rest) ← string input
      return (.str s, rest)
    | '\x7b' :: _, 0 => input.fail .tooDeep
    | '[' :: _, 0 => input.fail .tooDeep
    | '\x7b' :: _, levels + 1 =>
      let body := (input.drop 1).skipSpace
      match body.rest with
      | '\x7d' :: _ => .ok (.map [], body.drop 1)
      | _ => members levels fuel body []
    | '[' :: _, levels + 1 =>
      let body := (input.drop 1).skipSpace
      match body.rest with
      | ']' :: _ => .ok (.list [], body.drop 1)
      | _ => items levels fuel body []
    | _, _ => leaf input

/-- Reads the members of an object from a key on. -/
def members (levels : Nat) : Nat → Input → Members → Except Fault (Value × Input)
  | 0, input, _ => input.fail .propertyName
  | fuel + 1, input, read =>
    match input.rest with
    | '"' :: _ => do
      let (key, rest) ← string input
      let colon := rest.skipSpace
      match colon.rest with
      | ':' :: _ =>
        let (member, rest) ← value levels fuel (colon.drop 1).skipSpace
        let after := rest.skipSpace
        let read := Keyed.insert (.str key) member read
        match after.rest with
        | '\x7d' :: _ => .ok (.map read, after.drop 1)
        | ',' :: _ => members levels fuel (after.drop 1).skipSpace read
        | _ => after.fail .comma
      | _ => colon.fail .colon
    | _ => input.fail .propertyName

/-- Reads the items of an array from a value on, the last first. -/
def items (levels : Nat) : Nat → Input → List Value → Except Fault (Value × Input)
  | 0, input, _ => input.fail .value
  | fuel + 1, input, read => do
    let (item, rest) ← value levels fuel input
    let after := rest.skipSpace
    match after.rest with
    | ']' :: _ => .ok (.list (item :: read).reverse, after.drop 1)
    | ',' :: _ => items levels fuel (after.drop 1).skipSpace (item :: read)
    | _ => after.fail .comma

end

/-- The value that a whole text spells. -/
def read [Installation] (text : String) : Except Fault Value := do
  let input : Input := ⟨text.toList, 0⟩
  if input.rest.head? = some '\uFEFF' then input.fail .byteOrderMark
  else
    let (result, rest) ← value Installation.jsonDepth (2 * input.rest.length + 2) input.skipSpace
    let after := rest.skipSpace
    if after.rest.isEmpty then return result else after.fail .extraData

end StepFlow.Json
