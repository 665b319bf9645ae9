import StepFlow.Yaml.Cursor

/-! The tokens of a document text: punctuation, layout, node properties and scalars. -/
namespace StepFlow.Yaml

inductive Directive where
  | version (major minor : Nat)
  /-- A short form for the beginning of tags. -/
  | handle (handle start : String)
  | other
  deriving DecidableEq

inductive TokenKind where
  | streamStart
  | streamEnd
  | directive (directive : Directive)
  | documentStart
  | documentEnd
  | blockSequenceStart
  | blockMappingStart
  | blockEnd
  | flowSequenceStart
  | flowSequenceEnd
  | flowMappingStart
  | flowMappingEnd
  | key
  | value
  | blockEntry
  | flowEntry
  | aliasOf (name : String)
  | anchor (name : String)
  /-- A tag in full when there is no handle. -/
  | tag (handle : Option String) (suffix : String)
  /-- A scalar's text; a plain one was written without quotes. -/
  | scalar (text : String) (plain : Bool)
  deriving DecidableEq

structure Token where
  kind : TokenKind
  start : Mark
  stop : Mark
  deriving DecidableEq

/-- How a message names the token. -/
def TokenKind.name : TokenKind → String
  | streamStart => "<stream start>"
  | streamEnd => "<stream end>"
  | directive _ => "<directive>"
  | documentStart => "<document start>"
  | documentEnd => "<document end>"
  | blockSequenceStart => "<block sequence start>"
  | blockMappingStart => "<block mapping start>"
  | blockEnd => "<block end>"
  | flowSequenceStart => "["
  | flowSequenceEnd => "]"
  | flowMappingStart => "\x7b"
  | flowMappingEnd => "\x7d"
  | key => "?"
  | value => ":"
  | blockEntry => "-"
  | flowEntry => ","
  | aliasOf _ => "<alias>"
  | anchor _ => "<anchor>"
  | tag _ _ => "<tag>"
  | scalar _ _ => "<scalar>"

end StepFlow.Yaml
