import StepFlow.Text.Blank
import StepFlow.Text.Word

/-! The keys under which nodes name their component. -/
namespace StepFlow

/-- The component that names its operation beside its key. -/
def execKey : String := "component.exec"

/-- The keys of the two kinds of nodes that are no components. -/
def builtinKeys : List String := ["questions", "template"]

namespace ComponentKey

def isKeyChar (c : Char) : Bool :=
  isWord c || c = '.' || c = '-'

/-- An ASCII letter, then word characters, points and hyphens with a point among them
that is not the last. One line feed at the end does not count. -/
def isPattern (key : String) : Bool :=
  match dropLineFeed key.toList with
  | [] => false
  | first :: rest => first.isAlpha && rest.all isKeyChar && rest.dropLast.contains '.'

end ComponentKey

/-- Whether a new node may have this key. -/
def isValidComponentKey (key : String) : Bool :=
  builtinKeys.contains key || ComponentKey.isPattern key

end StepFlow
