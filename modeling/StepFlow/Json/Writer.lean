import StepFlow.Value.Basic
import StepFlow.Text.Quoted

/-! Writing JSON text: two spaces for each level, and ASCII only. -/
namespace StepFlow.Json

/-- A code unit of sixteen bits as an escape. -/
def escapeUnit (n : Nat) : List Char :=
  '\\' :: 'u' :: Quoted.hex 4 n

/-- Characters beyond the first plane take two escapes. -/
def escapeChar (c : Char) : List Char :=
  match c with
  | '"' => ['\\', '"']
  | '\\' => ['\\', '\\']
  | '\n' => ['\\', 'n']
  | '\r' => ['\\', 'r']
  | '\t' => ['\\', 't']
  | '\x08' => ['\\', 'b']
  | '\x0c' => ['\\', 'f']
  | c =>
    let n := Surrogate.codeOf c
    if 0x20 ≤ n && n < 0x7f then [c]
    else if n < 0x10000 then escapeUnit n
    else
      let m := n - 0x10000
      escapeUnit (0xD800 + m / 0x400) ++ escapeUnit (0xDC00 + m % 0x400)

def quote (s : String) : String :=
  String.ofList ('"' :: s.toList.flatMap escapeChar ++ ['"'])

def scalar : Scalar → String
  | .null => "null"
  | .bool b => if b then "true" else "false"
  | other => match other with
    | .str s => quote s
    | .int n => toString n
    | _ => quote other.text

def indent (level : Nat) : String :=
  "\n" ++ String.ofList (List.replicate (2 * level) ' ')

mutual

/-- The value as it stands on a line of the given level. Pairs and sets are written
as arrays. -/
def write (level : Nat) : Value → String
  | .scalar s => scalar s
  | .list [] => "[]"
  | .list items =>
    "[" ++ ",".intercalate (writeItems (level + 1) items) ++ indent level ++ "]"
  | .pair first second =>
    "[" ++ indent (level + 1) ++ write (level + 1) first ++ "," ++
      indent (level + 1) ++ write (level + 1) second ++ indent level ++ "]"
  | .map [] => "\x7b\x7d"
  | .map members =>
    "\x7b" ++ ",".intercalate (writeMembers (level + 1) members) ++ indent level ++ "\x7d"
  | .set elements =>
    "[" ++ ",".intercalate (elements.map fun s => indent (level + 1) ++ scalar s) ++
      indent level ++ "]"

def writeItems (level : Nat) : List Value → List String
  | [] => []
  | item :: items => (indent level ++ write level item) :: writeItems level items

def writeMembers (level : Nat) : List (Scalar × Value) → List String
  | [] => []
  | (key, value) :: members =>
    (indent level ++ quote key.text ++ ": " ++ write level value) :: writeMembers level members

end

/-- The whole text of a value. -/
def render (value : Value) : String :=
  write 0 value

end StepFlow.Json
