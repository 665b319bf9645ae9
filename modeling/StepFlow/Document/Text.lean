import StepFlow.Document.Graphs
import StepFlow.Document.Schema
import StepFlow.Yaml.Reading
import StepFlow.Yaml.Writer

/-! Document texts: reading a text as a graph and writing a graph as a text. -/
namespace StepFlow

/-- The label of a text that comes from no file. -/
def inlineLabel : String := "<inline>"

variable [Installation]

/-- The mapping that a text spells. Places count from one. -/
def parseDocument (text label : String) : Except Failure Members :=
  match Yaml.read text with
  | .ok (.map members) => .ok members
  | .ok _ => .error (.flow (.document "flow document must be a mapping" label none))
  | .error (.fault fault) =>
    let place := (fault.mark.line + 1, fault.mark.column + 1)
    .error (.flow (.document fault.problem.text label (some place)))
  | .error (.unreadable c offset) =>
    .error (.flow (.document (Yaml.unreadableText c offset) label none))
  | .error failure => .error (.data failure)

namespace Graph

/-- The graph of a document that keeps the rules. -/
def ofChecked? (document : Members) (label : String) : Except Failure Graph :=
  match Schema.violations (.map document) with
  | .ok [] => ofDocument? (.map document)
  | .ok violations => .error (.flow (.schema violations label))
  | .error failure => .error failure

/-- The graph that a text spells. -/
def load (text label : String) : Except Failure Graph := do
  ofChecked? (← parseDocument text label) label

variable [Execution]

/-- The text of a graph. -/
def render (graph : Graph) : String :=
  Yaml.render graph.toDocument

/-- The text of a graph all of whose values can be written. -/
def dump (graph : Graph) : Except Failure String := do
  let document := Value.map graph.toDocument
  requireWritable document.isWritable
  if Installation.writingDepth < document.depth then throw (.data (.value .tooDeep))
  return graph.render

/-- The graph as it is read back from its text. -/
def confirm (graph : Graph) : Except Failure Graph := do
  load (← graph.dump) s!"<flow:{graph.header.id.text}>"

end Graph

end StepFlow
