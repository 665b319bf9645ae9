import StepFlow.Document.Nodes
import StepFlow.Flow.Graph

/-! Graphs as documents write them. The first entrypoint is written as the start, so its
name is lost unless it is the default one. -/
namespace StepFlow

/-- Sets a node: a known id keeps its place. -/
def setNode (node : Node) : List Node → List Node
  | [] => [node]
  | other :: nodes => if other.key = node.key then node :: nodes else other :: setNode node nodes

theorem map_key_setNode (node : Node) (nodes : List Node) :
    (setNode node nodes).map Node.key =
      if node.key ∈ nodes.map Node.key then nodes.map Node.key
      else nodes.map Node.key ++ [node.key] := by
  induction nodes with
  | nil => simp [setNode]
  | cons other nodes ih =>
    by_cases same : other.key = node.key
    · simp [setNode, same]
    · have differ : ¬ node.key = other.key := fun h => same h.symm
      simp only [setNode, same, if_false, List.map_cons, ih, List.mem_cons, differ, false_or]
      split <;> simp_all

/-- Nodes of one id each, later ones in the place of earlier ones. -/
def distinctNodes (nodes : List Node) : List Node :=
  nodes.foldl (fun nodes node => setNode node nodes) []

theorem nodup_distinctNodes (nodes : List Node) : ((distinctNodes nodes).map Node.key).Nodup := by
  suffices ∀ acc : List Node, (acc.map Node.key).Nodup →
      ((nodes.foldl (fun nodes node => setNode node nodes) acc).map Node.key).Nodup from
    this [] (by simp)
  induction nodes with
  | nil => exact fun _ distinct => distinct
  | cons node nodes ih =>
    intro acc distinct
    apply ih
    rw [map_key_setNode]
    split
    · exact distinct
    · rename_i unknown
      rw [List.nodup_append]
      refine ⟨distinct, by simp, ?_⟩
      rintro a known b isId rfl
      rw [List.mem_singleton] at isId
      exact unknown (isId ▸ known)

namespace Graph

/-- The graph of these parts, later ones of equal name or id in the place of earlier
ones. -/
def ofParts (header : Header) (entrypoints : List (Scalar × Value)) (nodes : List Node) :
    Graph where
  header
  entrypoints := Keyed.ofList entrypoints
  nodes := distinctNodes nodes
  names_distinct := Keyed.nodup_ofList entrypoints
  ids_distinct := nodup_distinctNodes nodes

end Graph

/-- A member that counts as given. -/
def given? (members : Members) (key : String) : Option Value :=
  (Keyed.get? members key).filter Value.isTruthy

/-- Whether a piece occurs in a text. -/
def occursIn (piece : List Char) : List Char → Bool
  | [] => piece.isEmpty
  | c :: cs => piece.isPrefixOf (c :: cs) || occursIn piece cs

/-- Whether a collection holds a text: as a key, as an item, or as a piece. -/
def Value.holds (value : Value) (text : String) : Except Failure Bool :=
  match value with
  | .map members => .ok (Keyed.contains members text)
  | .list items => .ok (items.contains (.str text))
  | .set elements => .ok (elements.any fun element => element.same text)
  | .scalar (.str s) => .ok (occursIn text.toList s.toList)
  | _ => .error (.misshapen .noItems)

/-- The items of a collection, keys for a mapping and characters for a text. -/
def Value.items? : Value → Except Failure (List Value)
  | .list items => .ok items
  | .map members => .ok ((Keyed.keys members).map .scalar)
  | .set elements => .ok (elements.map .scalar)
  | .pair first second => .ok [first, second]
  | .scalar (.str s) => .ok (s.toList.map fun c => .str (String.singleton c))
  | .scalar (.bytes content) => .ok (content.map fun byte => .int byte.toNat)
  | _ => .error (.misshapen .noItems)

/-- The items of a collection as texts. -/
def Value.itemTexts? (value : Value) : Except Failure (List String) := do
  let items ← value.items?
  requireWritable (items.all Value.isWritable)
  return items.map Value.text

/-- The default target: the start, else the node `in`, else the first node. -/
def defaultTarget? (document : Members) : Except Failure (Option Value) :=
  match given? document "start", given? document "nodes" with
  | some start, _ => .ok (some start)
  | none, none => .ok none
  | none, some nodes => do
    if ← nodes.holds "in" then return some (.str "in")
    else return (← nodes.items?).head?

/-- Entrypoints in the order of their declaration, the default one first. Declared
targets that are no texts are left out. -/
def resolveEntrypoints (document : Members) : Except Failure Members := do
  let start ← defaultTarget? document
  let declared ←
    match given? document "entrypoints" with
    | none => .ok []
    | some (.map declared) => .ok declared
    | some _ => .error (.misshapen .noMapping)
  let first := (start.map fun target => (Scalar.str defaultEntrypoint, target)).toList
  return Keyed.update first (declared.filter fun member => member.2.str?.isSome)

/-- The mapping that a mapping or a list of keys with values spells. -/
def mappingOf : Value → Except Failure Members
  | .map members => .ok members
  | value => do
    let items ← value.items?
    let pairs ← items.zipIdx.mapM fun (item, place) => do
      match ← item.items? with
      | [.scalar key, value] => return (key, value)
      | [_, _] => .error (.misshapen .noKey)
      | parts => .error (.invalid (.pairLength place parts.length))
    return Keyed.ofList pairs

/-- A member that must be there. -/
def memberOf (document : Members) (key : String) : Except Failure Value :=
  match Keyed.get? document key with
  | some value => .ok value
  | none => .error (.misshapen (.noMember key))

def nodesOf (document : Members) : Except Failure (List Node) :=
  match given? document "nodes" with
  | none => .ok []
  | some (.map members) => members.mapM fun (id, value) => Node.ofValue? id value
  | some _ => .error (.misshapen .noMapping)

namespace Graph

/-- The graph of a document. -/
def ofDocument? : Value → Except Failure Graph
  | .map document => do
    let nodes ← nodesOf document
    let id ← memberOf document "id"
    let kind ← memberOf document "type"
    let entrypoints ← resolveEntrypoints document
    let parameters ← ((given? document "parameters").map mappingOf).getD (.ok [])
    let tags ← ((given? document "tags").map Value.items?).getD (.ok [])
    let header : Header :=
      { id, kind, parameters, tags
        title := Members.get document "title"
        description := Members.get document "description"
        schemaVersion := Members.get document "schema_version"
        info := Members.get document "meta" }
    return ofParts header entrypoints nodes
  | _ => .error (.misshapen .noMapping)

/-- A member that is written only if it counts as given. -/
def optionalMember (key : String) (value : Value) : Members :=
  if value.isTruthy then [(.str key, value)] else []

/-- The entrypoints beside the default one that lead somewhere. -/
def namedEntrypoints (graph : Graph) : Members :=
  graph.entrypoints.filter fun entry => entry.1 ≠ .str defaultEntrypoint && entry.2.isTruthy

/-- The document of a graph. The target of a first entrypoint that leads nowhere is not
written. -/
def toDocument (graph : Graph) : Members :=
  let header := graph.header
  [(.str "id", header.id), (.str "type", header.kind)] ++
    optionalMember "title" header.title ++
    optionalMember "description" header.description ++
    (match graph.entry? with
      | some (_, target) => optionalMember "start" target
      | none => []) ++
    optionalMember "parameters" (.map header.parameters) ++
    optionalMember "tags" (.list header.tags) ++
    (if header.schemaVersion.isNull then [] else [(.str "schema_version", header.schemaVersion)]) ++
    optionalMember "entrypoints" (.map graph.namedEntrypoints) ++
    optionalMember "meta" header.info ++
    [(.str "nodes", .map (graph.nodes.map fun node => (node.id, .map node.toMembers)))]

end Graph

end StepFlow
