import StepFlow.Yaml.Lexer.Plain
import StepFlow.Yaml.Lexer.Property

/-! Cutting a text into tokens. Indentation opens and closes block collections, and a
scalar on one line may turn out to be a mapping key when a colon follows it; then the
key token is put in front of it afterwards. -/
namespace StepFlow.Yaml

/-- A token that may yet turn out to start a mapping key, by its place among those that are
not settled. It must, when it stands at the column of the surrounding mapping. -/
structure PendingKey where
  token : Nat
  required : Bool
  mark : Mark

structure Lexer where
  cursor : Cursor
  /-- The tokens that are not settled. -/
  tokens : Array Token
  /-- Depth of flow collections; below zero when more were closed than opened. -/
  flow : Int
  /-- Column of the innermost block collection, or -1 outside of all. -/
  indent : Int
  /-- Columns of the outer block collections. -/
  outer : List Int
  /-- Whether a mapping key may start here. -/
  keyAllowed : Bool
  /-- Pending keys by flow depth, at most one for each. -/
  pending : List (Int × PendingKey)
  done : Bool

namespace Lexer

def start (text : String) : Lexer :=
  let cursor := Cursor.ofText text
  { cursor, tokens := #[⟨.streamStart, cursor.mark, cursor.mark⟩], flow := 0, indent := -1
    outer := [], keyAllowed := true, pending := [], done := false }

def inFlow (lexer : Lexer) : Bool := lexer.flow ≠ 0

def push (lexer : Lexer) (token : Token) : Lexer :=
  { lexer with tokens := lexer.tokens.push token }

/-- A token without extent at this place. -/
def pushHere (lexer : Lexer) (kind : TokenKind) : Lexer :=
  lexer.push ⟨kind, lexer.cursor.mark, lexer.cursor.mark⟩

/-- A token of the next `n` characters. -/
def pushNext (lexer : Lexer) (kind : TokenKind) (n : Nat) : Lexer :=
  let stop := lexer.cursor.skip n
  { lexer.push ⟨kind, lexer.cursor.mark, stop.mark⟩ with cursor := stop }

/-- Takes over a token that was read from the cursor on. -/
def pushRead (lexer : Lexer) (read : Token × Cursor) : Lexer :=
  { lexer.push read.1 with cursor := read.2 }

def fail {α : Type} (lexer : Lexer) (problem : Problem) : Except Failure α :=
  .error (.fault ⟨.tokens, none, problem, lexer.cursor.mark⟩)

def pendingKey? (lexer : Lexer) : Option PendingKey :=
  (lexer.pending.find? (·.1 = lexer.flow)).map Prod.snd

def dropPending (lexer : Lexer) : Lexer :=
  { lexer with pending := lexer.pending.filter (·.1 ≠ lexer.flow) }

/-- How long a key may be that was not marked. -/
def keyLimit : Nat := 1024

/-- A key ends on its line and is not too long. -/
def isStale (lexer : Lexer) (key : PendingKey) : Bool :=
  key.mark.line ≠ lexer.cursor.line || keyLimit < lexer.cursor.mark.index - key.mark.index

/-- Gives up pending keys that can no longer be keys. -/
def dropStale (lexer : Lexer) : Except Failure Lexer :=
  match lexer.pending.find? fun key => lexer.isStale key.2 && key.2.required with
  | some (_, key) => failAt .simpleKey key.mark .noColon lexer.cursor.mark
  | none => .ok { lexer with pending := lexer.pending.filter fun key => !lexer.isStale key.2 }

/-- Gives up the pending key at this depth. -/
def forgetKey (lexer : Lexer) : Except Failure Lexer :=
  match lexer.pendingKey? with
  | some key =>
    if key.required then failAt .simpleKey key.mark .noColon lexer.cursor.mark
    else .ok lexer.dropPending
  | none => .ok lexer

/-- Remembers that the next token may start a key. -/
def saveKey (lexer : Lexer) : Except Failure Lexer :=
  if lexer.keyAllowed then do
    let required := !lexer.inFlow && lexer.indent = lexer.cursor.column
    let lexer ← lexer.forgetKey
    let key : PendingKey := ⟨lexer.tokens.size, required, lexer.cursor.mark⟩
    return { lexer with pending := (lexer.flow, key) :: lexer.pending }
  else .ok lexer

/-- Closes the block collections right of a column. -/
def closeBlocks (column : Int) : Nat → Lexer → Lexer
  | 0, lexer => lexer
  | fuel + 1, lexer =>
    if column < lexer.indent then
      match lexer.outer with
      | [] => lexer
      | indent :: outer =>
        closeBlocks column fuel { lexer.pushHere .blockEnd with indent, outer }
    else lexer

/-- Inside flow collections the layout does not count. -/
def unwind (lexer : Lexer) (column : Int) : Lexer :=
  if lexer.inFlow then lexer else closeBlocks column lexer.outer.length lexer

/-- Opens a block collection unless one is open at the column. -/
def openBlock (lexer : Lexer) (column : Int) : Option Lexer :=
  if lexer.indent < column then
    some { lexer with outer := lexer.indent :: lexer.outer, indent := column }
  else none

/-- Spaces, comments and line breaks. A new line in block context may start a key. -/
def skipToToken : Nat → Lexer → Lexer
  | 0, lexer => lexer
  | fuel + 1, lexer =>
    let cursor := lexer.cursor.skipSpaces.skipComment
    if isBreak cursor.peek then
      skipToToken fuel
        { lexer with cursor := cursor.lineBreak.2, keyAllowed := lexer.keyAllowed || !lexer.inFlow }
    else { lexer with cursor }

def skipBlank (lexer : Lexer) : Lexer :=
  let cursor := lexer.cursor
  let skipsMark := cursor.mark.index = 0 && cursor.peek = byteOrderMark
  let lexer := if skipsMark then { lexer with cursor := cursor.next } else lexer
  skipToToken (lexer.cursor.size + 1) lexer

def streamEnd (lexer : Lexer) : Except Failure Lexer := do
  let lexer ← (lexer.unwind (-1)).forgetKey
  return { lexer.pushHere .streamEnd with keyAllowed := false, pending := [], done := true }

def directiveToken (lexer : Lexer) : Except Failure Lexer := do
  let lexer ← (lexer.unwind (-1)).forgetKey
  return { lexer.pushRead (← directive lexer.cursor) with keyAllowed := false }

def boundary (lexer : Lexer) (kind : TokenKind) : Except Failure Lexer := do
  let lexer ← (lexer.unwind (-1)).forgetKey
  return { lexer.pushNext kind 3 with keyAllowed := false }

def flowStart (lexer : Lexer) (kind : TokenKind) : Except Failure Lexer := do
  let lexer ← lexer.saveKey
  return { lexer.pushNext kind 1 with flow := lexer.flow + 1, keyAllowed := true }

def flowEnd (lexer : Lexer) (kind : TokenKind) : Except Failure Lexer := do
  let lexer ← lexer.forgetKey
  return { lexer.pushNext kind 1 with flow := lexer.flow - 1, keyAllowed := false }

def flowEntry (lexer : Lexer) : Except Failure Lexer := do
  let lexer ← lexer.forgetKey
  return { lexer.pushNext .flowEntry 1 with keyAllowed := true }

/-- Opens a block collection where one may start, or fails with the problem. -/
def openWhereAllowed (lexer : Lexer) (kind : TokenKind) (problem : Problem) :
    Except Failure Lexer :=
  if lexer.inFlow then .ok lexer
  else if !lexer.keyAllowed then lexer.fail problem
  else
    match lexer.openBlock lexer.cursor.column with
    | some opened => .ok (opened.pushHere kind)
    | none => .ok lexer

def blockEntry (lexer : Lexer) : Except Failure Lexer := do
  let lexer ← lexer.openWhereAllowed .blockSequenceStart .entriesNotAllowed
  let lexer ← lexer.forgetKey
  return { lexer.pushNext .blockEntry 1 with keyAllowed := true }

def keyToken (lexer : Lexer) : Except Failure Lexer := do
  let lexer ← lexer.openWhereAllowed .blockMappingStart .keysNotAllowed
  let lexer ← lexer.forgetKey
  return { lexer.pushNext .key 1 with keyAllowed := !lexer.inFlow }

/-- Puts a token without extent in front of an earlier one. -/
def insertBefore (lexer : Lexer) (key : PendingKey) (kind : TokenKind) : Lexer :=
  { lexer with tokens := lexer.tokens.insertIdxIfInBounds key.token ⟨kind, key.mark, key.mark⟩ }

/-- A colon after a pending key turns that token into a key; any other colon belongs to
a key that was marked, or to an empty one. -/
def valueToken (lexer : Lexer) : Except Failure Lexer :=
  match lexer.pendingKey? with
  | some key =>
    let lexer := lexer.dropPending.insertBefore key .key
    let lexer :=
      match if lexer.inFlow then none else lexer.openBlock key.mark.column with
      | some opened => opened.insertBefore key .blockMappingStart
      | none => lexer
    .ok { lexer.pushNext .value 1 with keyAllowed := false }
  | none => do
    let lexer ← lexer.openWhereAllowed .blockMappingStart .valuesNotAllowed
    let lexer ← lexer.forgetKey
    return { lexer.pushNext .value 1 with keyAllowed := !lexer.inFlow }

/-- A token of a node that may start a key and after which no key can start. -/
def nodeToken (lexer : Lexer) (read : Cursor → Except Failure (Token × Cursor)) :
    Except Failure Lexer := do
  let lexer ← lexer.saveKey
  return { lexer.pushRead (← read lexer.cursor) with keyAllowed := false }

def blockScalarToken (lexer : Lexer) : Except Failure Lexer := do
  let lexer ← { lexer with keyAllowed := true }.forgetKey
  return lexer.pushRead (← blockScalar lexer.indent lexer.cursor)

def plainToken (lexer : Lexer) : Except Failure Lexer := do
  let lexer ← lexer.saveKey
  let (token, onNewLine, rest) := plainScalar lexer.inFlow lexer.indent lexer.cursor
  return { lexer.pushRead (token, rest) with keyAllowed := onNewLine }

def isIndicator (c : Char) : Bool :=
  "-?:,[]\x7b\x7d#&*!|>'\"%@\x60".toList.contains c

def startsPlain (lexer : Lexer) : Bool :=
  let c := lexer.cursor.peek
  !(isGap c || isIndicator c) ||
    (!isGap (lexer.cursor.peek 1) && (c = '-' || (!lexer.inFlow && (c = '?' || c = ':'))))

/-- Reads the token that starts here. -/
def fetch (lexer : Lexer) : Except Failure Lexer :=
  let cursor := lexer.cursor
  let c := cursor.peek
  let atLineStart := cursor.column = 0
  let standsAlone := isGap (cursor.peek 1)
  if cursor.atEnd then lexer.streamEnd
  else if c = '%' && atLineStart then lexer.directiveToken
  else if c = '-' && atLineStart && cursor.isBoundary then lexer.boundary .documentStart
  else if c = '.' && atLineStart && cursor.isBoundary then lexer.boundary .documentEnd
  else if c = '[' then lexer.flowStart .flowSequenceStart
  else if c = '\x7b' then lexer.flowStart .flowMappingStart
  else if c = ']' then lexer.flowEnd .flowSequenceEnd
  else if c = '\x7d' then lexer.flowEnd .flowMappingEnd
  else if c = ',' then lexer.flowEntry
  else if c = '-' && standsAlone then lexer.blockEntry
  else if c = '?' && (lexer.inFlow || standsAlone) then lexer.keyToken
  else if c = ':' && (lexer.inFlow || standsAlone) then lexer.valueToken
  else if c = '*' || c = '&' then lexer.nodeToken anchorOrAlias
  else if c = '!' then lexer.nodeToken tag
  else if (c = '|' || c = '>') && !lexer.inFlow then lexer.blockScalarToken
  else if c = '\'' || c = '"' then lexer.nodeToken quotedScalar
  else if lexer.startsPlain then lexer.plainToken
  else failAt .nextToken cursor.mark (.cannotStartToken c) cursor.mark

/-- Skips to the next token and reads it. -/
def step (lexer : Lexer) : Except Failure Lexer := do
  let lexer ← lexer.skipBlank.dropStale
  let lexer ← (lexer.unwind lexer.cursor.column).fetch
  if lexer.done then return lexer else lexer.dropStale

/-- The tokens that are settled, all before the first that may yet become a key, and the
lexer without them. -/
def settle (lexer : Lexer) : Array Token × Lexer :=
  let first := lexer.pending.foldl (fun n key => min n key.2.token) lexer.tokens.size
  let tokens := lexer.tokens.extract first lexer.tokens.size
  let pending := lexer.pending.map fun (depth, key) =>
    (depth, { key with token := key.token - first })
  (lexer.tokens.extract 0 first, { lexer with tokens, pending })

/-- So many collections are open that the tokens settled open too many already: those of
the last characters, as many as a key may have, are enough for the others. -/
def isTooDeep (depth : Nat) (lexer : Lexer) : Bool :=
  depth + keyLimit < lexer.flow.toNat + lexer.outer.length

/-- The tokens up to the end of the text, or the settled ones up to a failure, behind those
that are given. Collections may be open up to a depth. -/
def run (depth : Nat) : Nat → Lexer → Array Token → Array Token × Option Failure
  | 0, _, tokens => (tokens, none)
  | fuel + 1, lexer, tokens =>
    let (settled, lexer) := lexer.settle
    let tokens := tokens ++ settled
    if lexer.done then (tokens ++ lexer.tokens, none)
    else if lexer.isTooDeep depth then (tokens, some (.value .tooDeep))
    else
      match lexer.step with
      | .ok lexer => run depth fuel lexer tokens
      | .error failure => (tokens, some failure)

end Lexer

/-- The tokens of a text, and the failure that ended reading, if one did. -/
def tokens (depth : Nat) (text : String) : List Token × Option Failure :=
  let (tokens, failure) := Lexer.run depth (text.length + 2) (Lexer.start text) #[]
  (tokens.toList, failure)

end StepFlow.Yaml
