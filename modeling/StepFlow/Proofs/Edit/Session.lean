import StepFlow.Proofs.Edit.Closure

/-! Sessions: edits one after another, each of the graph that the one before it left. Main
statement: a session that starts with a closed graph reaches closed graphs only. -/
namespace StepFlow

open Outcome

/-- An edit with the catalogs in which components are looked up. -/
inductive Edit where
  | add (request : Request) (planning checking : Option Catalog)
  | update (id : Scalar) (overrides : Overrides) (checking : Option Catalog)
  | splice (id : Scalar) (fanIn : FanIn)

section Sessions

variable [Installation] [Execution]

namespace Edit

def perform (graph : Graph) : Edit → Except Refusal Graph
  | add request planning checking => do
    let plan ← Plan.make graph request planning
    (graph.applyChecked plan checking).mapError .failure
  | update id overrides checking => (graph.updateChecked id overrides checking).mapError .failure
  | splice id fanIn => (graph.delete id .splice fanIn).mapError .failure

/-- The graph after the edit. One that fails leaves the graph as it was. -/
def next (graph : Graph) (edit : Edit) : Graph :=
  match edit.perform graph with
  | .ok result => result
  | .error _ => graph

/-- The text that the edit writes to check its result spells the document it was written from.
A splice writes none. -/
def ReadsBack (graph : Graph) : Edit → Prop
  | splice _ _ => True
  | edit => ∀ result, edit.perform graph = .ok result → result.IsReadBack

end Edit

namespace Graph

/-- The graphs that a session comes by, the first and the last one included. -/
def reached (graph : Graph) : List Edit → List Graph
  | [] => [graph]
  | edit :: edits => graph :: reached (edit.next graph) edits

/-- All that is read back in a session is what was written. -/
def ReadsBack (graph : Graph) : List Edit → Prop
  | [] => True
  | edit :: edits => edit.ReadsBack graph ∧ ReadsBack (edit.next graph) edits

variable {graph start : Graph} {edit : Edit} {edits : List Edit}

theorem IsSound.next (sound : graph.IsSound) (reads : edit.ReadsBack graph) :
    (edit.next graph).IsSound := by
  unfold Edit.next
  split
  · rename_i result performed
    cases edit with
    | add request planning checking =>
      have readBack := reads result performed
      simp only [Edit.perform, bind_eq_ok, mapError_eq_ok] at performed
      obtain ⟨plan, made, applied⟩ := performed
      exact sound.applyChecked made applied readBack
    | update id overrides checking =>
      exact sound.updateChecked (mapError_eq_ok.mp performed) (reads result performed)
    | splice id fanIn => exact sound.delete (mapError_eq_ok.mp performed)
  · exact sound

theorem IsSound.reached (sound : start.IsSound) (reads : start.ReadsBack edits) :
    ∀ graph ∈ start.reached edits, graph.IsSound := by
  induction edits generalizing start with
  | nil => simpa [Graph.reached] using sound
  | cons edit edits ih =>
    intro graph member
    rcases List.mem_cons.mp member with rfl | later
    · exact sound
    · exact ih (sound.next reads.1) reads.2 graph later

/-- Whatever is edited, and whichever edits fail, nothing comes to lead astray. -/
theorem isClosed_reached {document : Members} (read : ofDocument? (.map document) = .ok start)
    (closed : start.IsClosed) (reads : start.ReadsBack edits) :
    ∀ graph ∈ start.reached edits, graph.IsClosed := by
  have sound : start.IsSound := ⟨closed, keepsRouting_of_ofDocument? read⟩
  exact fun graph member => (sound.reached reads graph member).toIsClosed

theorem next_of_ok {result : Graph} (performed : edit.perform graph = .ok result) :
    edit.next graph = result := by
  rw [Edit.next, performed]

theorem next_of_error {refusal : Refusal} (failed : edit.perform graph = .error refusal) :
    edit.next graph = graph := by
  rw [Edit.next, failed]

theorem readsBack_of_ok {result : Graph} (performed : edit.perform graph = .ok result)
    (readBack : result.IsReadBack) : edit.ReadsBack graph := by
  cases edit with
  | splice => trivial
  | add | update =>
    intro other performed'
    obtain rfl := Except.ok.inj (performed.symm.trans performed')
    exact readBack

theorem readsBack_of_error {refusal : Refusal} (failed : edit.perform graph = .error refusal) :
    edit.ReadsBack graph := by
  cases edit with
  | splice => trivial
  | add | update =>
    intro result performed
    rw [failed] at performed
    contradiction

/-- What is read back passes the check if the graph keeps the rules and nothing is found in it. -/
theorem checked_of_readBack {catalog : Option Catalog} {location : String}
    (readBack : graph.IsReadBack) (dumped : graph.dump = .ok graph.render)
    (kept : Schema.violations (.map graph.toDocument) = .ok [])
    (read : ofDocument? (.map graph.toDocument) = .ok graph)
    (valid : graph.validate catalog = .ok []) : graph.checked catalog location = .ok graph := by
  have confirmed : graph.confirm = .ok graph :=
    confirm_eq_ok_iff.mpr ⟨dumped, graph.toDocument, readBack, kept, read⟩
  simp only [checked, bind_eq_ok]
  exact ⟨graph, confirmed, [], valid, rfl⟩

theorem perform_add {request : Request} {planning checking : Option Catalog} {result : Graph}
    (plan : Plan) (made : Plan.make graph request planning = .ok plan)
    (applied : graph.apply plan = .ok result)
    (passed : result.checked checking draftName = .ok result) :
    (Edit.add request planning checking).perform graph = .ok result := by
  simp only [Edit.perform, Graph.applyChecked, bind_eq_ok, mapError_eq_ok]
  exact ⟨plan, made, result, applied, passed⟩

end Graph

end Sessions

namespace Graph

attribute [local instance] Installation.usual Execution.usual

/-- A talk of plain texts. -/
def talk (entry : String) (nodes : List Node) (distinct : (nodes.map Node.key).Nodup) : Graph where
  header := ⟨.str "talk", .str "chat", .null, .null, [], [], .null, .null⟩
  entrypoints := [(.str defaultEntrypoint, .str entry)]
  nodes := nodes
  names_distinct := by simp
  ids_distinct := distinct

def saying (id : String) (next : Route) : Node :=
  ⟨.str id, .template "Hi", [next], []⟩

def leadingTo (id next : String) : Node :=
  saying id (.toNode (.str next))

def brief : Graph :=
  talk "a" [leadingTo "a" "c", saying "c" .leave] (by decide)

def longer : Graph :=
  talk "a" [leadingTo "a" "b", leadingTo "b" "c", saying "c" .leave] (by decide)

def introduced : Graph :=
  talk "o" [leadingTo "o" "a", leadingTo "a" "c", saying "c" .leave] (by decide)

/-- A step on the way to where its anchor leads, or in front of the entry if there is no anchor. -/
def halt (hint : String) (after : Option Scalar) : Request where
  after := after
  hint := some hint
  node := .map [(.str "template", .str "Hi"),
    (.str "routing", .list [.map [(.str "to", .str "NEXT_NODE_PLACEHOLDER")]])]
  allowCycles := false
  requirePlaceholder := true

/-- Adds a step behind the entry and deletes it again, fails to change one that there is not, and
adds a step in front of the entry. -/
def rehearsal : List Edit := [
  .add (halt "b" (some (.str "a"))) none none,
  .splice "b" .refuse,
  .update "x" ⟨none, none, some (.routes [.leave])⟩ none,
  .add (halt "o" none) none none]

theorem isClosed_reached_rehearsal :
    ofDocument? (.map brief.toDocument) = .ok brief ∧ brief.IsClosed ∧ brief.ReadsBack rehearsal ∧
      brief.reached rehearsal = [brief, longer, brief, brief, introduced] ∧
      ∀ graph ∈ brief.reached rehearsal, graph.IsClosed := by
  have read : ofDocument? (.map brief.toDocument) = .ok brief := by decide +kernel
  have closed : brief.IsClosed := by
    have quiet : brief.findings none = [] := by decide +kernel
    exact ⟨fun _ => node?_id, admits_of_findings quiet, .inl (by decide)⟩
  have readLonger : longer.IsReadBack := by unfold IsReadBack; decide +kernel
  have readIntroduced : introduced.IsReadBack := by unfold IsReadBack; decide +kernel
  have added : (Edit.add (halt "b" (some (.str "a"))) none none).perform brief = .ok longer :=
    perform_add ⟨.str "a", leadingTo "b" "c", [.toNode (.str "c")], false, false⟩
      (by decide +kernel) (by decide +kernel)
      (checked_of_readBack readLonger (by decide +kernel) (by decide +kernel) (by decide +kernel)
        (by decide +kernel))
  have deleted : (Edit.splice "b" .refuse).perform longer = .ok brief := by decide +kernel
  have failed : (Edit.update "x" ⟨none, none, some (.routes [.leave])⟩ none).perform brief =
      .error (.failure (.ofFault (.nodeNotFound (.str "x")))) := by decide +kernel
  have preceded : (Edit.add (halt "o" none) none none).perform brief = .ok introduced :=
    perform_add ⟨.str "a", leadingTo "o" "c", [.toNode (.str "c")], true, false⟩
      (by decide +kernel) (by decide +kernel)
      (checked_of_readBack readIntroduced (by decide +kernel) (by decide +kernel)
        (by decide +kernel) (by decide +kernel))
  have reads : brief.ReadsBack rehearsal := by
    refine ⟨readsBack_of_ok added readLonger, ?_⟩
    rw [next_of_ok added]
    refine ⟨trivial, ?_⟩
    rw [next_of_ok deleted]
    refine ⟨readsBack_of_error failed, ?_⟩
    rw [next_of_error failed]
    exact ⟨readsBack_of_ok preceded readIntroduced, trivial⟩
  refine ⟨read, closed, reads, ?_, isClosed_reached read closed reads⟩
  rw [rehearsal, reached, next_of_ok added, reached, next_of_ok deleted, reached,
    next_of_error failed, reached, next_of_ok preceded, reached]

end Graph

end StepFlow
