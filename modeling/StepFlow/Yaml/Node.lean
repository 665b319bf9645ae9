import StepFlow.Yaml.Fault
import StepFlow.Yaml.Tag
import StepFlow.Yaml.Token

/-! The tree of a document: scalars, sequences and mappings with their tags, aliases
replaced by what they stand for. Only where a collection holds an alias of itself, a
reference to it remains. -/
namespace StepFlow.Yaml

inductive NodeKind where
  | scalar
  | sequence
  | mapping
  deriving DecidableEq

/-- How a message names the kind of node. -/
def NodeKind.name : NodeKind → String
  | scalar => "scalar"
  | sequence => "sequence"
  | mapping => "mapping"

/-- What is known of a node beside its content. All places where an alias puts a node have
the serial number of the one that is written out; no other node has it. -/
structure Label where
  serial : Nat
  tag : String
  start : Mark

inductive Node where
  | scalar (label : Label) (text : String)
  | sequence (label : Label) (items : List Node)
  | mapping (label : Label) (members : List (Node × Node))
  /-- The collection of this label, inside itself. -/
  | reference (label : Label) (kind : NodeKind)

namespace Node

def label : Node → Label
  | scalar label _ => label
  | sequence label _ => label
  | mapping label _ => label
  | reference label _ => label

def serial (node : Node) : Nat :=
  node.label.serial

def start (node : Node) : Mark :=
  node.label.start

def isScalar : Node → Bool
  | scalar _ _ => true
  | _ => false

def isMergeKey (node : Node) : Bool :=
  node.label.tag = standardTag "merge"

def kind : Node → NodeKind
  | scalar _ _ => .scalar
  | sequence _ _ => .sequence
  | mapping _ _ => .mapping
  | reference _ kind => kind

end Node

/-- What the tokens read so far have left: how many they are, those to come, the names
bound, the short forms of tags, and how many collections may still be opened within those that
are open. A name is bound from the start of its node on, at first to a reference. -/
structure Source where
  read : Nat
  rest : List Token
  failure : Option Failure
  bound : List (String × Node)
  handles : List (String × String)
  room : Nat

namespace Source

def defaultHandles : List (String × String) :=
  [("!", "!"), ("!!", standardTag "")]

/-- The next token. After the last one comes the failure that ended the text. -/
def peek (source : Source) : Except Failure Token :=
  match source.rest, source.failure with
  | token :: _, _ => .ok token
  | [], some failure => .error failure
  | [], none => .error (.fault ⟨.tokens, none, .endOfStream, ⟨0, 0, 0⟩⟩)

def advance (source : Source) : Source :=
  { source with read := source.read + 1, rest := source.rest.tail }

/-- The serial number of a node that starts here. -/
def serial (source : Source) : Nat :=
  2 * source.read

/-- The kind of the next token. -/
def kind (source : Source) : Except Failure TokenKind :=
  source.peek.map Token.kind

def fail {α : Type} (activity : Option (Activity × Mark)) (problem : Problem) (at_ : Mark) :
    Except Failure α :=
  .error (.fault ⟨.grammar, activity, problem, at_⟩)

def failLink {α : Type} (activity : Option (Activity × Mark)) (problem : Problem) (at_ : Mark) :
    Except Failure α :=
  .error (.fault ⟨.links, activity, problem, at_⟩)

/-- Anchor and tag of a node, and where they begin. -/
structure Properties where
  anchor : Option String
  tag : Option String
  start : Option Mark
  stop : Mark

/-- A tag in full. -/
def expandTag (source : Source) (start : Mark) (handle : Option String) (suffix : String)
    (at_ : Mark) : Except Failure String :=
  match handle with
  | none => .ok suffix
  | some handle =>
    match source.handles.lookup handle with
    | some tagStart => .ok (tagStart ++ suffix)
    | none => fail (some (.node, start)) (.undefinedHandle handle) at_

/-- Anchor and tag in either order, each at most once. -/
def properties (source : Source) : Except Failure (Properties × Source) := do
  let first ← source.peek
  match first.kind with
  | .anchor name =>
    let source := source.advance
    let second ← source.peek
    match second.kind with
    | .tag handle suffix =>
      let tag ← source.expandTag first.start handle suffix second.start
      return (⟨some name, some tag, some first.start, second.stop⟩, source.advance)
    | _ => return (⟨some name, none, some first.start, first.stop⟩, source)
  | .tag handle suffix =>
    let after := source.advance
    let second ← after.peek
    match second.kind with
    | .anchor name =>
      let tag ← source.expandTag first.start handle suffix first.start
      return (⟨some name, some tag, some first.start, second.stop⟩, after.advance)
    | _ =>
      let tag ← source.expandTag first.start handle suffix first.start
      return (⟨none, some tag, some first.start, first.stop⟩, after)
  | _ => return (⟨none, none, none, first.start⟩, source)

/-- Lets a name stand for a node from here on. -/
def bind (source : Source) (anchor : Option String) (node : Node) : Source :=
  match anchor with
  | none => source
  | some name => { source with bound := (name, node) :: source.bound }

/-- Refuses a second node of one name. -/
def requireFree (source : Source) (anchor : Option String) (start : Mark) :
    Except Failure Unit :=
  match anchor.bind fun name => (source.bound.lookup name).map (name, ·) with
  | some (name, first) => failLink (some (.firstAnchor name, first.start)) .secondAnchor start
  | none => .ok ()

/-- Takes a scalar. -/
def leaf (source : Source) (anchor : Option String) (label : Label) (text : String) :
    Except Failure (Node × Source) := do
  source.requireFree anchor label.start
  let node := Node.scalar label text
  return (node, source.bind anchor node)

/-- Goes into a collection. -/
def enter (source : Source) (anchor : Option String) (label : Label) (kind : NodeKind) :
    Except Failure Source := do
  source.requireFree anchor label.start
  match source.room with
  | 0 => throw (.value .tooDeep)
  | room + 1 => return { source.bind anchor (.reference label kind) with room }

/-- Comes out of a collection that is complete. -/
def leave (source : Source) (anchor : Option String) (node : Node) : Node × Source :=
  (node, { source.bind anchor node with room := source.room + 1 })

/-- The tag of a scalar: its own, or one by the form of its text when it was written
without quotes or its tag is the lone exclamation mark. -/
def scalarTag (tag : Option String) (plain : Bool) (text : String) : String :=
  match tag with
  | some tag => if tag = "!" then resolve text else tag
  | none => if plain then resolve text else standardTag "str"

def collectionTag (tag : Option String) (default : String) : String :=
  match tag with
  | some tag => if tag = "!" then standardTag default else tag
  | none => standardTag default

/-- A node without a token of its own. -/
def emptyNode (source : Source) (at_ : Mark) : Node :=
  .scalar ⟨source.serial + 1, resolve "", at_⟩ ""

mutual

/-- Reads a node. Block collections may start only in block context, and a sequence
without indentation of its own only as a member of a mapping. -/
def node (block indentless : Bool) : Nat → Source → Except Failure (Node × Source)
  | 0, source => do fail none (.expectedToken "the node content" "") (← source.peek).start
  | fuel + 1, source => do
    let token ← source.peek
    match token.kind with
    | .aliasOf name =>
      match source.bound.lookup name with
      | some node => return (node, source.advance)
      | none => failLink none (.undefinedAlias name) token.start
    | _ =>
      let serial := source.serial
      let (own, source) ← source.properties
      let token ← source.peek
      let start := own.start.getD token.start
      let sequenceLabel : Label := ⟨serial, collectionTag own.tag "seq", start⟩
      let mappingLabel : Label := ⟨serial, collectionTag own.tag "map", start⟩
      if indentless && token.kind = .blockEntry then
        let (items, source) ←
          indentlessItems fuel (← source.enter own.anchor sequenceLabel .sequence)
        return source.leave own.anchor (.sequence sequenceLabel items)
      else
        match token.kind with
        | .scalar text plain =>
          source.advance.leaf own.anchor ⟨serial, scalarTag own.tag plain text, start⟩ text
        | .flowSequenceStart =>
          let source ← source.enter own.anchor sequenceLabel .sequence
          let (items, source) ← flowItems token.start true fuel source.advance
          return source.leave own.anchor (.sequence sequenceLabel items)
        | .flowMappingStart =>
          let source ← source.enter own.anchor mappingLabel .mapping
          let (members, source) ← flowMembers token.start true fuel source.advance
          return source.leave own.anchor (.mapping mappingLabel members)
        | kind =>
          if block && kind = .blockSequenceStart then
            let source ← source.enter own.anchor sequenceLabel .sequence
            let (items, source) ← blockItems token.start fuel source.advance
            return source.leave own.anchor (.sequence sequenceLabel items)
          else if block && kind = .blockMappingStart then
            let source ← source.enter own.anchor mappingLabel .mapping
            let (members, source) ← blockMembers token.start fuel source.advance
            return source.leave own.anchor (.mapping mappingLabel members)
          else if own.start.isSome then
            source.leaf own.anchor ⟨serial, scalarTag own.tag own.tag.isNone "", start⟩ ""
          else
            fail (some (if block then .blockNode else .flowNode, start))
              (.expectedToken "the node content" kind.name) token.start

/-- The entries of a block sequence, up to its end. -/
def blockItems (start : Mark) : Nat → Source → Except Failure (List Node × Source)
  | 0, source => .ok ([], source)
  | fuel + 1, source => do
    let token ← source.peek
    match token.kind with
    | .blockEntry =>
      let source := source.advance
      let next ← source.kind
      let (item, source) ←
        if next = .blockEntry ∨ next = .blockEnd then pure (source.emptyNode token.stop, source)
        else node true false fuel source
      let (items, source) ← blockItems start fuel source
      return (item :: items, source)
    | .blockEnd => return ([], source.advance)
    | kind =>
      fail (some (.blockCollection, start)) (.expectedToken "<block end>" kind.name) token.start

/-- The entries of a sequence at the column of the mapping around it; it ends where no
entry follows. -/
def indentlessItems : Nat → Source → Except Failure (List Node × Source)
  | 0, source => .ok ([], source)
  | fuel + 1, source => do
    let token ← source.peek
    if token.kind = .blockEntry then
      let source := source.advance
      let next ← source.kind
      let (item, source) ←
        if next = .blockEntry ∨ next = .key ∨ next = .value ∨ next = .blockEnd then
          pure (source.emptyNode token.stop, source)
        else node true false fuel source
      let (items, source) ← indentlessItems fuel source
      return (item :: items, source)
    else return ([], source)

/-- A member's key or value after its token, empty when the next token ends it. -/
def blockPart (token : Token) (fuel : Nat) (source : Source) : Except Failure (Node × Source) := do
  match fuel with
  | 0 => return (source.emptyNode token.stop, source)
  | fuel + 1 =>
    let next ← source.kind
    if next = .key ∨ next = .value ∨ next = .blockEnd then
      return (source.emptyNode token.stop, source)
    else node true true fuel source

/-- The members of a block mapping, up to its end. -/
def blockMembers (start : Mark) : Nat → Source → Except Failure (List (Node × Node) × Source)
  | 0, source => .ok ([], source)
  | fuel + 1, source => do
    let token ← source.peek
    match token.kind with
    | .key =>
      let (key, source) ← blockPart token fuel source.advance
      let token ← source.peek
      let (value, source) ←
        if token.kind = .value then blockPart token fuel source.advance
        else pure (source.emptyNode token.start, source)
      let (members, source) ← blockMembers start fuel source
      return ((key, value) :: members, source)
    | .blockEnd => return ([], source.advance)
    | kind =>
      fail (some (.blockMapping, start)) (.expectedToken "<block end>" kind.name) token.start

/-- A part of a flow member after its token; it is empty when the collection goes on or
ends there. -/
def flowPart (token : Token) (last : TokenKind) (isKey : Bool) (fuel : Nat) (source : Source) :
    Except Failure (Node × Source) := do
  match fuel with
  | 0 => return (source.emptyNode token.stop, source)
  | fuel + 1 =>
    let next ← source.kind
    if (isKey && next = .value) || next = .flowEntry || next = last then
      return (source.emptyNode token.stop, source)
    else node false false fuel source

/-- The value of a flow member whose key was marked. -/
def flowValue (last : TokenKind) (fuel : Nat) (source : Source) :
    Except Failure (Node × Source) := do
  match fuel with
  | 0 => return (source.emptyNode (← source.peek).start, source)
  | fuel + 1 =>
    let token ← source.peek
    if token.kind = .value then flowPart token last false fuel source.advance
    else return (source.emptyNode token.start, source)

/-- The entries of a flow sequence; a marked key makes a mapping with one member. -/
def flowItems (start : Mark) (first : Bool) : Nat → Source → Except Failure (List Node × Source)
  | 0, source => .ok ([], source)
  | fuel + 1, source => do
    let token ← source.peek
    if token.kind = .flowSequenceEnd then return ([], source.advance)
    else
      let source ←
        if first then pure source
        else if token.kind = .flowEntry then pure source.advance
        else fail (some (.flowSequence, start)) (.gotToken "',' or ']'" token.kind.name) token.start
      let token ← source.peek
      match token.kind with
      | .key =>
        let serial := source.serial
        let (key, source) ← flowPart token .flowSequenceEnd true fuel source.advance
        let (value, source) ← flowValue .flowSequenceEnd fuel source
        let pair := Node.mapping ⟨serial, standardTag "map", token.start⟩ [(key, value)]
        let (items, source) ← flowItems start false fuel source
        return (pair :: items, source)
      | .flowSequenceEnd => return ([], source.advance)
      | _ =>
        let (item, source) ← node false false fuel source
        let (items, source) ← flowItems start false fuel source
        return (item :: items, source)

/-- The members of a flow mapping; a key without a mark has no value. -/
def flowMembers (start : Mark) (first : Bool) :
    Nat → Source → Except Failure (List (Node × Node) × Source)
  | 0, source => .ok ([], source)
  | fuel + 1, source => do
    let token ← source.peek
    if token.kind = .flowMappingEnd then return ([], source.advance)
    else
      let source ←
        if first then pure source
        else if token.kind = .flowEntry then pure source.advance
        else
          fail (some (.flowMapping, start)) (.gotToken "',' or '\x7d'" token.kind.name) token.start
      let token ← source.peek
      match token.kind with
      | .key =>
        let (key, source) ← flowPart token .flowMappingEnd true fuel source.advance
        let (value, source) ← flowValue .flowMappingEnd fuel source
        let (members, source) ← flowMembers start false fuel source
        return ((key, value) :: members, source)
      | .flowMappingEnd => return ([], source.advance)
      | _ =>
        let (key, source) ← node false false fuel source
        let value := source.emptyNode (← source.peek).start
        let (members, source) ← flowMembers start false fuel source
        return ((key, value) :: members, source)

end

/-- The directives in front of a document. -/
def directives (version : Bool) : Nat → Source → Except Failure Source
  | 0, source => .ok source
  | fuel + 1, source => do
    let token ← source.peek
    match token.kind with
    | .directive (.version major _) =>
      if version then fail none .duplicateVersion token.start
      else if major ≠ 1 then fail none .wrongVersion token.start
      else directives true fuel source.advance
    | .directive (.handle handle tagStart) =>
      if (source.handles.lookup handle).isSome then
        fail none (.duplicateHandle handle) token.start
      else
        directives version fuel
          { source.advance with handles := (handle, tagStart) :: source.handles }
    | .directive .other => directives version fuel source.advance
    | _ => .ok { source with handles := source.handles ++ defaultHandles }

def skipDocumentEnds (source : Source) : Source :=
  { source with rest := source.rest.dropWhile fun token => token.kind = TokenKind.documentEnd }

/-- The start of an explicit document, or nothing at the end of the text. -/
def documentStart (source : Source) : Except Failure (Option Mark × Source) := do
  let source := source.skipDocumentEnds
  let token ← source.peek
  if token.kind = .streamEnd then return (none, source)
  else
    let source ← directives false (source.rest.length + 1) { source with handles := [] }
    let next ← source.peek
    if next.kind = .documentStart then return (some token.start, source.advance)
    else fail none (.expectedToken "'<document start>'" next.kind.name) next.start

/-- The root of a document, empty when the next token ends it. -/
def root (explicit : Bool) (source : Source) : Except Failure (Node × Source) := do
  let token ← source.peek
  let isEmpty := match token.kind with
    | .directive _ | .documentStart | .documentEnd | .streamEnd => true
    | _ => false
  if explicit && isEmpty then return (source.emptyNode token.start, source)
  else node true false (4 * source.rest.length + 8) source

/-- The one document of a text, if it has any, and the nodes in it that have names. -/
def document (source : Source) : Except Failure (Option (Node × List Node)) := do
  let token ← source.peek
  let isImplicit := match token.kind with
    | .directive _ | .documentStart | .streamEnd => false
    | _ => true
  let (start, source) ←
    if isImplicit then pure (some token.start, { source with handles := defaultHandles })
    else source.documentStart
  match start with
  | none => return none
  | some _ =>
    let (node, source) ← source.root !isImplicit
    let source := match source.rest with
      | token :: rest =>
        if token.kind = TokenKind.documentEnd then { source with rest } else source
      | [] => source
    let (another, _) ← source.documentStart
    match another with
    | none => return some (node, source.bound.map Prod.snd)
    | some at_ => failLink (some (.singleDocument, node.start)) .anotherDocument at_

end Source

/-- The tree of a text's tokens, and the nodes in it that have names. The first token
marks the start of the text. Collections may be open up to a depth. -/
def Node.ofTokens? (depth : Nat) (tokens : List Token) (failure : Option Failure) :
    Except Failure (Option (Node × List Node)) :=
  Source.document ⟨1, tokens.tail, failure, [], [], depth⟩

end StepFlow.Yaml
