import StepFlow.Host
import StepFlow.Yaml.Lexer
import StepFlow.Yaml.Sketch

/-! The value of a document text. -/
namespace StepFlow.Yaml

/-- The characters that a document may contain. -/
def isReadable (c : Char) : Bool :=
  let n := Surrogate.codeOf c
  n = 0x09 || n = 0x0A || n = 0x0D || (0x20 ≤ n && n ≤ 0x7E) || n = 0x85 ||
    (0xA0 ≤ n && n ≤ 0xD7FF) || (0xE000 ≤ n && n ≤ 0xFFFD) || 0x10000 ≤ n

variable [Installation]

/-- The value of a text that holds at most one document; null when it holds none. Texts of
different origin share nothing that is not a number. -/
def readFrom (origin : Nat) (text : String) : Except Failure Value := do
  match text.toList.findIdx? fun c => !isReadable c with
  | some offset => .error (.unreadable (text.toList.getD offset endMark) offset)
  | none =>
    let (tokens, failure) := tokens Installation.readingDepth text
    match ← Node.ofTokens? Installation.readingDepth tokens failure with
    | none => return .null
    | some (node, named) => node.value origin (2 * tokens.length + 2) named

/-- The value of a text that is the only one. -/
def read (text : String) : Except Failure Value :=
  readFrom 0 text

end StepFlow.Yaml
