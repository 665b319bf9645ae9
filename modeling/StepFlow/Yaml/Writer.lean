import StepFlow.Host
import StepFlow.Text.Base64
import StepFlow.Value.Basic
import StepFlow.Yaml.Pen

/-! Writing values as block-style document text. -/
namespace StepFlow.Yaml

/-- A number always has a point, so that it is read as one with a fraction. -/
def floatText (x : Double) : String :=
  if x.isNaN then ".nan"
  else if !x.isFinite then (if x.isNegative then "-.inf" else ".inf")
  else
    let cs := x.text.toList
    if cs.contains '.' then x.text
    else String.ofList (cs.takeWhile (· ≠ 'e') ++ ['.', '0'] ++ cs.dropWhile (· ≠ 'e'))

/-- The text of a scalar. -/
def scalarText : Scalar → String
  | .null => "null"
  | .bool b => if b then "true" else "false"
  | .int n => toString n
  | .float x => floatText x
  | .str s => s
  | .date d => d.text
  | .datetime t => t.text " "
  | .bytes content => String.ofList (Base64.encodeLines content.length content)

/-- The name of a scalar's tag. -/
def tagName : Scalar → String
  | .null => "null"
  | .bool _ => "bool"
  | .int _ => "int"
  | .float _ => "float"
  | .str _ => "str"
  | .date _ => "timestamp"
  | .datetime _ => "timestamp"
  | .bytes _ => "binary"

/-- Whether a key can stand on one line with its colon: its tag, though not written,
counts with its text. -/
def isSimpleKey (key : Scalar) : Bool :=
  let text := scalarText key
  (tagName key).length + 2 + text.length < 128 && text ≠ "" && !text.toList.any isWrittenBreak

namespace Pen

/-- Bytes are written as a literal of base-64 lines, none of them as an empty text. -/
def binary (indent : Nat) (content : List UInt8) (pen : Pen) : Pen :=
  let pen := pen.mark "!!binary".toList
  if content.isEmpty then pen.mark ['"', '"']
  else
    literalLines indent (scalarText (.bytes content)).toList ((pen.mark ['|']).breakLine '\n')

/-- A scalar inside a collection at a column; what it spills over goes two further. -/
def scalar (isKey : Bool) (column : Nat) (s : Scalar) (pen : Pen) : Pen :=
  let indent := column + 2
  match s with
  | .str text =>
    match styleOf isKey text with
    | .plain => pen.plain (!isKey) indent text.toList
    | .single => pen.single (!isKey) indent text.toList
    | .double => pen.double (!isKey) indent text.toList
  | .bytes content => pen.binary indent content
  | other => pen.plain (!isKey) indent (scalarText other).toList

/-- Writes a key and the colon behind it; a key that is not simple gets a mark of its own
and the colon a new line. -/
def key (column : Nat) (s : Scalar) (pen : Pen) : Pen :=
  let pen := pen.toColumn column
  if isSimpleKey s then (pen.scalar true column s).close [':']
  else (((pen.nest '?').scalar false column s).toColumn column).nest ':'

end Pen

variable [Execution]

mutual

/-- Writes a value inside a collection at a column. In a mapping, a sequence on lines of
its own stays at the mapping's column. -/
def write (column : Nat) (inMapping : Bool) : Value → Pen → Pen
  | .scalar s, pen => pen.scalar false column s
  | .list [], pen => pen.mark ['[', ']']
  | .list items, pen =>
    let column := if inMapping && !pen.onlyMarks then column else column + 2
    writeItems column items pen
  | .pair first second, pen =>
    let column := if inMapping && !pen.onlyMarks then column else column + 2
    let pen := write column false first ((pen.toColumn column).nest '-')
    write column false second ((pen.toColumn column).nest '-')
  | .map [], pen => pen.mark ['\x7b', '\x7d']
  | .map members, pen => writeMembers (column + 2) members pen
  | .set elements, pen =>
    let pen := pen.mark "!!set".toList
    if elements.isEmpty then pen.mark ['\x7b', '\x7d']
    else (Execution.listing elements).foldl (fun pen s => (pen.key (column + 2) s).scalar false (column + 2) .null) pen

def writeItems (column : Nat) : List Value → Pen → Pen
  | [], pen => pen
  | item :: items, pen =>
    writeItems column items (write column false item ((pen.toColumn column).nest '-'))

def writeMembers (column : Nat) : List (Scalar × Value) → Pen → Pen
  | [], pen => pen
  | (key, value) :: members, pen =>
    writeMembers column members (write column true value (pen.key column key))

end

/-- The document text of a mapping that has members. -/
def render (members : Members) : String :=
  (writeMembers 0 members Pen.fresh |>.toColumn 0).text

end StepFlow.Yaml
