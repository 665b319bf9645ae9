import StepFlow.Text.Printable
import StepFlow.Text.Surrogate

/-! Texts between quotes, as messages show them: single quotes unless only single
quotes occur inside, and a backslash escape for what cannot be shown. -/
namespace StepFlow.Quoted

/-- The lower-case hexadecimal digits of a number, at least `width` of them. -/
def hex (width n : Nat) : List Char :=
  let digits := Nat.toDigits 16 n
  List.replicate (width - digits.length) '0' ++ digits

/-- The quote that needs no escape, if there is one; a single quote by preference. -/
def quoteFor (cs : List Char) : Char :=
  if cs.contains '\'' && !cs.contains '"' then '"' else '\''

/-- Hexadecimal escape, with as many digits as the code point's plane asks for. -/
def escapeCode (n : Nat) : List Char :=
  if n < 0x100 then '\\' :: 'x' :: hex 2 n
  else if n < 0x10000 then '\\' :: 'u' :: hex 4 n
  else '\\' :: 'U' :: hex 8 n

def escapeChar (quote c : Char) : List Char :=
  if c = quote || c = '\\' then ['\\', c]
  else if c = '\t' then ['\\', 't']
  else if c = '\n' then ['\\', 'n']
  else if c = '\r' then ['\\', 'r']
  else if isPrintable c then [c]
  else escapeCode (Surrogate.codeOf c)

/-- The characters between quotes. -/
def chars (cs : List Char) : List Char :=
  let quote := quoteFor cs
  quote :: cs.flatMap (escapeChar quote) ++ [quote]

/-- The text between quotes. -/
def text (s : String) : String :=
  String.ofList (chars s.toList)

/-- A byte is shown as its ASCII character where that is printable. -/
def escapeByte (quote : Char) (byte : UInt8) : List Char :=
  let c := Char.ofNat byte.toNat
  if byte < 0x80 then escapeChar quote c else escapeCode byte.toNat

/-- Bytes between quotes, marked by a leading `b`. -/
def bytes (content : List UInt8) : String :=
  let quote := quoteFor (content.map fun byte => Char.ofNat byte.toNat)
  String.ofList ('b' :: quote :: content.flatMap (escapeByte quote) ++ [quote])

/-- The report on a run of characters at a place that a code does not know. -/
def unencodable (code : String) (first : Nat) (run : List Char) (reason : String) : String :=
  let place := match run with
    | [c] => s!"character '{String.ofList (escapeCode (Surrogate.codeOf c))}' in position {first}"
    | run => s!"characters in position {first}-{first + run.length - 1}"
  s!"'{code}' codec can't encode {place}: {reason}"

end StepFlow.Quoted
