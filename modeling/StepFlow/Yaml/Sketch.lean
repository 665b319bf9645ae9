import StepFlow.Text.Base64
import StepFlow.Yaml.Node
import StepFlow.Yaml.Number

/-! The value of a tree. Each node is sketched once: a scalar is then complete, and a
collection waits until all that were met before it have been filled. So a collection is
filled level by level, and of several failures the one nearest to the root is reported. -/
namespace StepFlow.Yaml

/-- A value whose parts are the serial numbers of their nodes. -/
inductive Sketch where
  | scalar (s : Scalar)
  | list (items : List Nat)
  /-- The entries of an ordered map. -/
  | pairs (entries : List (Nat × Nat))
  | map (members : Keyed Nat)
  | set (elements : List Scalar)

namespace Sketch

/-- The tags of values without parts. -/
def scalarTags : List String :=
  ["str", "null", "bool", "int", "float", "timestamp", "binary"].map standardTag

/-- The empty collections by their tags. -/
def collections : List (String × Sketch) :=
  [(standardTag "seq", list []), (standardTag "map", map []), (standardTag "set", set []),
    (standardTag "omap", pairs []), (standardTag "pairs", pairs [])]

end Sketch

/-- What has been made of a tree so far. Merging changes a mapping, and using a default mark
as a key makes a text of it; both hold wherever an alias puts the node from then on. -/
structure Board where
  /-- Which text the tree is of, when several are read. -/
  origin : Nat
  /-- The nodes that references may stand for. -/
  named : List Node
  sketches : Array (Option Sketch)
  merged : List (Nat × List (Node × Node))
  plainKeys : List Nat
  /-- The collections that have to be filled, the last one first. -/
  waiting : List Node

namespace Board

/-- Nothing yet, with room for so many nodes. -/
def blank (origin room : Nat) (named : List Node) : Board :=
  ⟨origin, named, Array.replicate room none, [], [], []⟩

/-- A node itself for a reference to it. -/
def whole (board : Board) (node : Node) : Node :=
  match node with
  | .reference label _ => (board.named.find? (·.serial = label.serial)).getD node
  | other => other

def sketch? (board : Board) (node : Node) : Option Sketch :=
  (board.sketches[node.serial]?).join

def draw (board : Board) (node : Node) (sketch : Sketch) : Board :=
  { board with sketches := board.sketches.setIfInBounds node.serial (some sketch) }

/-- Lets a collection wait to be filled. -/
def await (board : Board) (node : Node) : Board :=
  { board with waiting := node :: board.waiting }

def tag (board : Board) (node : Node) : String :=
  if board.plainKeys.contains node.serial then standardTag "str" else node.label.tag

def isDefaultKey (board : Board) (node : Node) : Bool :=
  board.tag node = standardTag "value"

/-- The members of a mapping, with those of merged mappings once they are merged. -/
def members (board : Board) (label : Label) (written : List (Node × Node)) :
    List (Node × Node) :=
  (board.merged.lookup label.serial).getD written

def setMembers (board : Board) (label : Label) (members : List (Node × Node)) : Board :=
  { board with merged := (label.serial, members) :: board.merged }

/-- Tells apart what is not a number: by its node, and by the text that the node is of. -/
def stamp (board : Board) (node : Node) : Nat :=
  board.origin * Nat.pow 2 32 + node.serial + 1

/-- The value of a node, if it has so few levels below it. -/
def value? (board : Board) : Nat → Nat → Option Value
  | 0, _ => none
  | levels + 1, serial =>
    let part := board.value? levels
    match (board.sketches[serial]?).join with
    | some (.scalar s) => some (.scalar s)
    | some (.list items) => .list <$> items.mapM part
    | some (.pairs entries) =>
      .list <$> entries.mapM fun entry => return .pair (← part entry.1) (← part entry.2)
    | some (.map members) =>
      .map <$> members.mapM fun member => return (member.1, ← part member.2)
    | some (.set elements) => some (.set elements)
    | none => none

end Board

/-- Steps that make sketches. -/
abbrev Drawing := StateT Board (Except Failure)

/-- The characters that are not ASCII, from the first to the end of their run. -/
def asciiFault? (cs : List Char) : Option (Nat × List Char) :=
  let before := cs.takeWhile fun c => c.toNat < 128
  let run := (cs.drop before.length).takeWhile fun c => 128 ≤ c.toNat
  if run.isEmpty then none else some (before.length, run)

def binaryValue (text : String) (start : Mark) : Except Failure (List UInt8) :=
  match asciiFault? text.toList with
  | some (at_, run) =>
    let report := Quoted.unencodable "ascii" at_ run "ordinal not in range(128)"
    .error (.fault ⟨.values, none, .binaryNotAscii report, start⟩)
  | none =>
    match Base64.decode text.toList with
    | .ok content => .ok content
    | .error fault => .error (.fault ⟨.values, none, .binaryNotBase64 fault.text, start⟩)

/-- The value of a text under a tag of values without parts. -/
def scalarValue (tag text : String) (stamp : Nat) (start : Mark) : Except Failure Scalar :=
  let typed {α : Type} (build : α → Scalar) (result : Except ValueFault α) :
      Except Failure Scalar :=
    (result.mapError .value).map build
  if tag = standardTag "str" then .ok (.str text)
  else if tag = standardTag "null" then .ok .null
  else if tag = standardTag "bool" then typed .bool (boolValue text)
  else if tag = standardTag "int" then typed .int (intValue text)
  else if tag = standardTag "float" then typed .float (floatValue stamp text)
  else if tag = standardTag "timestamp" then typed id (timeValue text)
  else (binaryValue text start).map .bytes

namespace Drawing

def fail {α : Type} (activity : Option (Activity × Mark)) (problem : Problem) (at_ : Mark) :
    Drawing α :=
  throw (.fault ⟨.values, activity, problem, at_⟩)

/-- The text of a scalar, or of a mapping's member under the default key. -/
def text : Nat → Node → Drawing String
  | 0, _ => throw (.value .tooDeep)
  | levels + 1, node => do
    let board ← get
    match board.whole node with
    | .scalar _ text => return text
    | .mapping label written =>
      match (board.members label written).find? fun member => board.isDefaultKey member.1 with
      | some (_, value) => text levels value
      | none => fail none (.notScalar NodeKind.mapping.name) label.start
    | other => fail none (.notScalar other.kind.name) other.start

/-- The scalar that a node is under a tag. A day or a moment must be written as a text. -/
def scalar (levels : Nat) (tag : String) (node : Node) : Drawing Scalar := do
  let text ← text levels node
  if tag = standardTag "timestamp" && !node.isScalar then throw (.value .timestampParts)
  else scalarValue tag text ((← get).stamp node) node.start

/-- Sketches a node, unless that has been done. -/
def sketch (levels : Nat) (node : Node) : Drawing Sketch := do
  let board ← get
  match board.sketch? node with
  | some sketch => return sketch
  | none =>
    let tag := board.tag node
    if Sketch.scalarTags.contains tag then
      let sketch := Sketch.scalar (← scalar levels tag node)
      modify (·.draw node sketch)
      return sketch
    else
      match Sketch.collections.lookup tag with
      | some sketch =>
        modify fun board =>
          let whole := board.whole node
          (board.draw node sketch).await whole
        return sketch
      | none => fail none (.noConstructor tag) node.start

/-- Sketches a part and answers with its serial number. -/
def part (levels : Nat) (node : Node) : Drawing Nat := do
  let _ ← sketch levels node
  return node.serial

/-- As a key of a mapping, a default mark is an ordinary text. -/
def keepKey (key : Node) : Drawing Unit :=
  modify fun board =>
    if board.isDefaultKey key then { board with plainKeys := key.serial :: board.plainKeys }
    else board

mutual

/-- Merges into a mapping, from its members behind so many on. What merge keys give, in
their order, comes in front of everything else in the end. A merge key is gone before what
it names is looked at, which may be the mapping itself. -/
def flattenFrom (label : Label) (written : List (Node × Node)) :
    Nat → Nat → List (Node × Node) → Drawing (List (Node × Node))
  | 0, _, _ => throw (.value .tooDeep)
  | levels + 1, place, merged => do
    let members := (← get).members label written
    let before := (members.drop place).takeWhile fun member => !member.1.isMergeKey
    before.forM fun member => keepKey member.1
    let place := place + before.length
    match members.drop place with
    | [] =>
      if merged.isEmpty then return members
      else
        modify (·.setMembers label (merged ++ members))
        return merged ++ members
    | (_, value) :: after =>
      modify (·.setMembers label (members.take place ++ after))
      let more ← mergedMembers label levels value
      flattenFrom label written levels place (merged ++ more)

/-- The members that a merge key gives: those of a mapping, or of the mappings in a list,
later ones first. -/
def mergedMembers (label : Label) : Nat → Node → Drawing (List (Node × Node))
  | 0, _ => throw (.value .tooDeep)
  | levels + 1, value => do
    match (← get).whole value with
    | .mapping inner members => flattenFrom inner members levels 0 []
    | .sequence _ items =>
      let parts ← items.mapM fun item => do
        match (← get).whole item with
        | .mapping inner members => flattenFrom inner members levels 0 []
        | other =>
          fail (some (.mapping, label.start)) (.mergeNotMapping other.kind.name) other.start
      return parts.reverse.flatten
    | other =>
      fail (some (.mapping, label.start)) (.mergeNotMappings other.kind.name) other.start

end

/-- The members of a mapping after merging. -/
def flatten (levels : Nat) (label : Label) (written : List (Node × Node)) :
    Drawing (List (Node × Node)) :=
  flattenFrom label written levels 0 []

/-- A key's value must have no parts. -/
def key (levels : Nat) (mappingStart : Mark) (node : Node) : Drawing Scalar := do
  match ← sketch levels node with
  | .scalar s => return s
  | _ => fail (some (.mapping, mappingStart)) .unhashableKey node.start

def members (levels : Nat) : Node → Drawing (Keyed Nat)
  | .mapping label written => do
    let members ← flatten levels label written
    let pairs ← members.mapM fun member => do
      let key ← key levels label.start member.1
      return (key, ← part levels member.2)
    return Keyed.ofList pairs
  | other => fail none (.notMapping other.kind.name) other.start

def items (levels : Nat) : Node → Drawing (List Nat)
  | .sequence _ items => items.mapM (part levels)
  | other => fail none (.notSequence other.kind.name) other.start

/-- The entries of an ordered map: a list of mappings with one member each. -/
def entries (levels : Nat) (activity : Activity) : Node → Drawing (List (Nat × Nat))
  | .sequence label items =>
    items.mapM fun item => do
      match (← get).whole item with
      | .mapping inner written =>
        match (← get).members inner written with
        | [(key, value)] =>
          let key ← part levels key
          return (key, ← part levels value)
        | members => fail (some (activity, label.start)) (.entryCount members.length) inner.start
      | other => fail (some (activity, label.start)) (.entryNotMapping other.kind.name) other.start
  | other =>
    fail (some (activity, other.start)) (.entriesNotSequence other.kind.name) other.start

/-- Fills a collection. -/
def fill (levels : Nat) (node : Node) : Drawing Unit := do
  let tag := (← get).tag node
  let filled ←
    if tag = standardTag "seq" then Sketch.list <$> items levels node
    else if tag = standardTag "map" then Sketch.map <$> members levels node
    else if tag = standardTag "set" then (Sketch.set ∘ Keyed.keys) <$> members levels node
    else if tag = standardTag "omap" then Sketch.pairs <$> entries levels .orderedMap node
    else Sketch.pairs <$> entries levels .pairs node
  modify (·.draw node filled)

/-- Fills the collections that wait, then those that they hold, and so on. -/
def fillAll (levels : Nat) : Nat → Drawing Unit
  | 0 => return
  | rounds + 1 => do
    match (← get).waiting with
    | [] => return
    | waiting =>
      modify fun board => { board with waiting := [] }
      waiting.reverse.forM (fill levels)
      fillAll levels rounds

end Drawing

/-- The value of a tree of at most so many nodes, some of them with names. As each node has a
level of its own at most, what goes on below so many is a collection within itself. -/
def Node.value (origin room : Nat) (named : List Node) (node : Node) : Except Failure Value := do
  let draw : Drawing Nat := do
    let serial ← Drawing.part room node
    Drawing.fillAll room room
    return serial
  let (serial, board) ← draw.run (.blank origin room named)
  match board.value? (room + 1) serial with
  | some value => return value
  | none => throw .outside

end StepFlow.Yaml
