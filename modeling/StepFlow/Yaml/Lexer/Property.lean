import StepFlow.Number.Digits
import StepFlow.Text.Utf8
import StepFlow.Yaml.Lexer.Block

/-! Reading what describes nodes and documents: anchors, aliases, tags, directives. -/
namespace StepFlow.Yaml.Lexer

/-- Characters of anchor names, tag handles and directive names. -/
def isNameChar (c : Char) : Bool :=
  c.isAlphanum || c = '-' || c = '_'

/-- What may follow an anchor or an alias. -/
def endsName (c : Char) : Bool :=
  isGap c || c = '?' || c = ':' || c = ',' || c = ']' || c = '\x7d' || c = '%' || c = '@' ||
    c = '\x60'

/-- An anchor or an alias from its indicator on. -/
def anchorOrAlias (at_ : Cursor) : Except Failure (Token × Cursor) :=
  let isAlias := at_.peek = '*'
  let activity : Activity := if isAlias then .aliasName else .anchor
  let expected := "alphabetic or numeric character"
  let (name, rest) := at_.next.takeWhile isNameChar
  if name.isEmpty || !endsName rest.peek then
    failAt activity at_.mark (.expected expected rest.peek) rest.mark
  else
    let name := String.ofList name
    .ok (⟨if isAlias then .aliasOf name else .anchor name, at_.mark, rest.mark⟩, rest)

/-- The stage of a tag's text: on a node or in a directive. -/
structure TagPlace where
  scanning : Activity
  parsing : Activity
  start : Mark

def TagPlace.node (start : Mark) : TagPlace := ⟨.tag, .tagText, start⟩

def TagPlace.directive (start : Mark) : TagPlace := ⟨.directive, .directiveText, start⟩

/-- A handle: one exclamation mark, or a name between two. -/
def tagHandle (place : TagPlace) (at_ : Cursor) : Except Failure (String × Cursor) :=
  if at_.peek ≠ '!' then
    failAt place.scanning place.start (.expected "'!'" at_.peek) at_.mark
  else if at_.peek 1 = ' ' then .ok ("!", at_.next)
  else
    let (name, rest) := at_.next.takeWhile isNameChar
    if rest.peek ≠ '!' then
      failAt place.scanning place.start (.expected "'!'" rest.peek) rest.mark
    else .ok (String.ofList ('!' :: name ++ ['!']), rest.next)

/-- The bytes of a run of percent escapes. -/
def uriBytes (place : TagPlace) : Nat → Cursor → Except Failure (List UInt8 × Cursor)
  | 0, at_ => .ok ([], at_)
  | fuel + 1, at_ =>
    if at_.peek ≠ '%' then .ok ([], at_)
    else
      let digits := at_.next
      match (List.range 2).find? fun k => !isHexDigit (digits.peek k) with
      | some k =>
        failAt place.scanning place.start
          (.expected "URI escape sequence of 2 hexadecimal numbers" (digits.peek k)) digits.mark
      | none => do
        let byte := UInt8.ofNat (hexNumber (digits.rest.take 2))
        let (more, rest) ← uriBytes place fuel (digits.skip 2)
        return (byte :: more, rest)

def isUriChar (c : Char) : Bool :=
  c.isAlphanum || "-;/?:@&=+$,_.!~*'()[]".toList.contains c

/-- Characters and percent escapes of a tag. -/
def uriPieces (place : TagPlace) : Nat → Cursor → Except Failure (List Char × Cursor)
  | 0, at_ => .ok ([], at_)
  | fuel + 1, at_ => do
    let (run, rest) := at_.takeWhile isUriChar
    if rest.peek = '%' then
      let (content, after) ← uriBytes place (rest.size + 1) rest
      match Utf8.decode ⟨content.toArray⟩ with
      | .error fault =>
        failAt place.scanning place.start (.uriBytes fault.message) rest.mark
      | .ok escaped =>
        if !Surrogate.isWhole escaped then throw .outside
        let (more, after) ← uriPieces place fuel after
        return (run ++ escaped.toList ++ more, after)
    else return (run, rest)

def tagUri (place : TagPlace) (at_ : Cursor) : Except Failure (String × Cursor) := do
  let (text, rest) ← uriPieces place (at_.size + 1) at_
  if rest.mark.index = at_.mark.index then
    failAt place.parsing place.start (.expected "URI" rest.peek) rest.mark
  else return (String.ofList text, rest)

/-- Whether a second exclamation mark comes before the next blank. -/
def hasHandle (at_ : Cursor) : Bool :=
  ((at_.rest.drop 1).takeWhile fun c => !isSpaceOrLineEnd c).contains '!'

/-- A tag from its exclamation mark on. -/
def tag (at_ : Cursor) : Except Failure (Token × Cursor) := do
  let place := TagPlace.node at_.mark
  let (handle, suffix, rest) : Option String × String × Cursor ←
    (if at_.peek 1 = '<' then do
      let (suffix, rest) ← tagUri place (at_.skip 2)
      if rest.peek ≠ '>' then
        failAt .tagText at_.mark (.expected "'>'" rest.peek) rest.mark
      else pure (none, suffix, rest.next)
    else if isGap (at_.peek 1) then pure (none, "!", at_.next)
    else if hasHandle at_ then do
      let (handle, rest) ← tagHandle place at_
      let (suffix, rest) ← tagUri place rest
      pure (some handle, suffix, rest)
    else do
      let (suffix, rest) ← tagUri place at_.next
      pure (some "!", suffix, rest))
  if isSpaceOrLineEnd rest.peek then
    return (⟨.tag handle suffix, at_.mark, rest.mark⟩, rest)
  else failAt .tag at_.mark (.expected "' '" rest.peek) rest.mark

def directiveName (start : Mark) (at_ : Cursor) : Except Failure (String × Cursor) :=
  let (name, rest) := at_.takeWhile isNameChar
  if name.isEmpty || !isSpaceOrLineEnd rest.peek then
    failAt .directive start (.expected "alphabetic or numeric character" rest.peek) rest.mark
  else .ok (String.ofList name, rest)

def versionNumber (start : Mark) (at_ : Cursor) : Except Failure (Nat × Cursor) :=
  let (digits, rest) := at_.takeWhile Char.isDigit
  if digits.isEmpty then failAt .directive start (.expected "a digit" rest.peek) rest.mark
  else if digitLimit < digits.length then .error (.value (.digitLimit digits.length))
  else .ok (digits.foldl (fun n c => n * 10 + (c.toNat - 48)) 0, rest)

def version (start : Mark) (at_ : Cursor) : Except Failure (Directive × Cursor) := do
  let (major, rest) ← versionNumber start at_.skipSpaces
  if rest.peek ≠ '.' then
    failAt .directive start (.expected "a digit or '.'" rest.peek) rest.mark
  else
    let (minor, rest) ← versionNumber start rest.next
    if isSpaceOrLineEnd rest.peek then return (.version major minor, rest)
    else failAt .directive start (.expected "a digit or ' '" rest.peek) rest.mark

def handleDirective (start : Mark) (at_ : Cursor) : Except Failure (Directive × Cursor) := do
  let place := TagPlace.directive start
  let (handle, rest) ← tagHandle place at_.skipSpaces
  if rest.peek ≠ ' ' then
    failAt .directive start (.expected "' '" rest.peek) rest.mark
  else
    let (tagStart, rest) ← tagUri place rest.skipSpaces
    if isSpaceOrLineEnd rest.peek then return (.handle handle tagStart, rest)
    else failAt .directive start (.expected "' '" rest.peek) rest.mark

/-- A directive from its percent sign on; the rest of an unknown one is skipped. -/
def directive (at_ : Cursor) : Except Failure (Token × Cursor) := do
  let (name, rest) ← directiveName at_.mark at_.next
  let (content, stop) ←
    if name = "YAML" then version at_.mark rest
    else if name = "TAG" then handleDirective at_.mark rest
    else pure (.other, rest)
  let after := if content = .other then stop.skipWhile fun c => !isLineEnd c else stop
  let after ← ignoredLine .directive at_.mark after
  return (⟨.directive content, at_.mark, stop.mark⟩, after)

end StepFlow.Yaml.Lexer
