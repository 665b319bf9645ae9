import StepFlow.Proofs.Edit.Validity

/-! What splicing a node out does to a valid flow. Main statement: the flow stays valid while it
has nodes; without nodes it is wrong only that its first entrypoint, if there is one, leads
nowhere. -/
namespace StepFlow.Graph

variable {graph result : Graph} {catalog : Option Catalog} {id : Scalar} {deleted : Node}
  {routing : List Route} {fanIn : FanIn}

theorem entry_spliceOut : Graph.entry? (graph.spliceOut id routing) = graph.entry?.map fun entry =>
    (entry.1, if entry.2.denotes id then .scalar ((graph.spliceOut id routing).ids.head?.getD nowhere)
      else entry.2) :=
  List.head?_map

/-- Nothing is wrong with the nodes that stay: the routes they come by led somewhere else before. -/
theorem nodeFindings_spliceOut (quiet : graph.findings catalog = [])
    (isDeleted : deleted ∈ graph.nodes) :
    ∀ node ∈ (graph.spliceOut id deleted.routing).nodes,
      (graph.spliceOut id deleted.routing).nodeFindings catalog node = [] := by
  intro node member
  refine nodeFindings_eq_nil_iff.mpr
    ⟨admits_spliceOut (admits_of_findings quiet) isDeleted node member, ?_⟩
  obtain ⟨old, isOld, -, rfl⟩ := mem_nodes_spliceOut.mp member
  exact (nodeFindings_eq_nil_iff.mp ((findings_eq_nil_iff.mp quiet).2 old isOld)).2

/-- An entrypoint to the deleted node leads to the first one that is left. -/
theorem LeadsIn.spliceOut (leads : graph.LeadsIn)
    (nonempty : (graph.spliceOut id routing).nodes ≠ []) : (graph.spliceOut id routing).LeadsIn := by
  intro entry isEntry
  rw [entry_spliceOut] at isEntry
  obtain ⟨old, isOld, rfl⟩ := Option.map_eq_some_iff.mp isEntry
  obtain ⟨target, isTarget, isKey⟩ := hasTarget_iff.mp (leads old isOld)
  rw [hasTarget_iff]
  split
  · obtain ⟨first, rest, nodes⟩ := List.exists_cons_of_ne_nil nonempty
    have isFirst : first ∈ (graph.spliceOut id routing).nodes := by simp [nodes]
    exact ⟨first.id, by simp [ids, nodes], key_mem_keys isFirst⟩
  · rename_i away
    exact ⟨target, isTarget, mem_keys_spliceOut.mpr
      ⟨isKey, fun same => away (Value.denotes_iff.mpr ⟨target, isTarget, same⟩)⟩⟩

/-- Once the last node is gone, the first entrypoint leads nowhere. -/
theorem entry_spliceOut_of_empty (leads : graph.LeadsIn)
    (empty : (graph.spliceOut id routing).nodes = []) {entry : Scalar × Value}
    (isEntry : graph.entry? = some entry) :
    Graph.entry? (graph.spliceOut id routing) = some (entry.1, .scalar nowhere) := by
  obtain ⟨target, isTarget, isKey⟩ := hasTarget_iff.mp (leads entry isEntry)
  have gone : target.identity ∉ (graph.spliceOut id routing).keys := by simp [keys, empty]
  rw [mem_keys_spliceOut] at gone
  have here : entry.2.denotes id = true :=
    Value.denotes_iff.mpr ⟨target, isTarget, not_not.mp fun differ => gone ⟨isKey, differ⟩⟩
  rw [entry_spliceOut, isEntry, Option.map_some, here]
  simp [ids, empty]

/-- That an entrypoint leads nowhere. -/
def leadsNowhere (name : Scalar) : Diagnostic :=
  ⟨.entrypointMissing, s!"entrypoint '{name.text}' targets unknown node '{nowhere.text}'",
    some s!"entrypoints.{name.text}"⟩

theorem findings_of_empty (empty : graph.nodes = []) : graph.findings catalog = graph.entryFindings := by
  rw [findings, empty, List.flatMap_nil, List.append_nil]

theorem findings_of_nowhere (empty : graph.nodes = []) {name : Scalar}
    (isEntry : graph.entry? = some (name, .scalar nowhere)) :
    graph.findings catalog = [leadsNowhere name] := by
  have unknown : graph.hasTarget (.scalar nowhere) = false := by simp [hasTarget, hasNode, empty]
  rw [findings_of_empty empty, entryFindings, isEntry]
  simp only [unknown, Bool.false_eq_true, if_false]
  rfl

theorem validate_of_nowhere (empty : graph.nodes = []) {name : Scalar}
    (isEntry : graph.entry? = some (name, .scalar nowhere)) (writable : name.isWritable = true) :
    graph.validate catalog = .ok [leadsNowhere name] := by
  have fits : graph.entryFits = true := by simp [entryFits, isEntry]
  have shown : (Value.scalar nowhere).isWritable = true := rfl
  have tell : (graph.canTellEntry && graph.nodes.all (graph.canTellNode catalog)) = true := by
    simp [canTellEntry, isEntry, empty, writable, shown]
  simp only [validate, fits, tell, findings_of_nowhere empty isEntry]
  rfl

theorem validate_delete_splice (valid : graph.validate catalog = .ok [])
    (succeeds : graph.delete id .splice fanIn = .ok result) :
    (result.nodes ≠ [] → result.validate catalog = .ok []) ∧
      (result.nodes = [] → graph.entrypoints = [] → result.validate catalog = .ok []) ∧
      (result.nodes = [] → ∀ name target, graph.entry? = some (name, target) →
        result.findings catalog = [leadsNowhere name] ∧
          (name.isWritable = true → result.validate catalog = .ok [leadsNowhere name])) := by
  obtain ⟨deleted, found, ⟨-, rfl⟩ | ⟨-, -, rfl⟩⟩ := delete_eq_ok_iff.mp succeeds
  · -- no node is equal to the id, so none is deleted
    have nonempty := nodes_ne_nil (hasNode_of_node? found)
    exact ⟨fun _ => valid, fun empty => absurd empty nonempty, fun empty => absurd empty nonempty⟩
  have quiet := findings_of_validate valid
  have leads := entryFindings_eq_nil_iff.mp (findings_eq_nil_iff.mp quiet).1
  have spared : ∀ node ∈ (graph.spliceOut id deleted.routing).nodes,
      (graph.spliceOut id deleted.routing).nodeFindings catalog node = [] :=
    nodeFindings_spliceOut quiet (node?_eq_some_iff.mp found).1
  have stays (leadsIn : (graph.spliceOut id deleted.routing).LeadsIn) :
      (graph.spliceOut id deleted.routing).validate catalog = .ok [] := by
    have none := findings_eq_nil_iff.mpr ⟨entryFindings_eq_nil_iff.mpr leadsIn, spared⟩
    rw [← none]
    exact validate_eq_ok leadsIn fun node member => by simp [canTellNode, spared node member]
  refine ⟨fun nonempty => stays (leads.spliceOut nonempty), fun _ unentered => stays ?_,
    fun empty name target isEntry => ?_⟩
  · intro entry isEntry
    have none : graph.entry? = none := List.head?_eq_none_iff.mpr unentered
    simp [entry_spliceOut, none] at isEntry
  · have isNowhere := entry_spliceOut_of_empty leads empty isEntry
    exact ⟨findings_of_nowhere empty isNowhere, validate_of_nowhere empty isNowhere⟩

/-- A single step, entered under two names. -/
def lone : Graph where
  header := ⟨.str "lone", .str "messaging", .null, .null, [], [], .null, .null⟩
  entrypoints := [(.str "default", .str "hello"), (.str "again", .str "hello")]
  nodes := [⟨.str "hello", .template "Hello.", [.toNode "hello", .leave], []⟩]
  names_distinct := by decide
  ids_distinct := by decide

theorem validate_delete_splice_relay_lone :
    (relay.validate none = .ok [] ∧ ∃ result, relay.delete "relay" .splice .spliceAll = .ok result ∧
      result.nodes ≠ [] ∧ result.validate none = .ok []) ∧
    lone.validate none = .ok [] ∧ ∃ result, lone.delete "hello" .splice .refuse = .ok result ∧
      result.nodes = [] ∧ result.validate none = .ok [leadsNowhere "default"] := by
  have validRelay : relay.validate none = .ok [] := by decide +kernel
  have validLone : lone.validate none = .ok [] := by decide +kernel
  have relayed : relay.delete "relay" .splice .spliceAll = .ok _ := rfl
  have emptied : lone.delete "hello" .splice .refuse = .ok _ := rfl
  have left := (validate_delete_splice validRelay relayed).1 (by decide)
  obtain ⟨-, told⟩ := (validate_delete_splice validLone emptied).2.2 (by decide) _ _ rfl
  exact ⟨⟨validRelay, _, relayed, by decide, left⟩, validLone, _, emptied, by decide, told rfl⟩

end StepFlow.Graph
