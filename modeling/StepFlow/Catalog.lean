import StepFlow.Value.Basic

/-! Component catalogs: which components there are, and which fields each requires. -/
namespace StepFlow

structure Component where
  id : String
  /-- Dotted names lead into nested mappings. -/
  requiredFields : List String
  deriving DecidableEq

/-- Components in the order of their first appearance, one for each id. -/
structure Catalog where
  components : List Component
  deriving DecidableEq

namespace Catalog

def empty : Catalog := ⟨[]⟩

def resolve (catalog : Catalog) (id : String) : Option Component :=
  catalog.components.find? (·.id = id)

def contains (catalog : Catalog) (id : String) : Bool :=
  (catalog.resolve id).isSome

def setComponent (component : Component) : List Component → List Component
  | [] => [component]
  | other :: components =>
    if other.id = component.id then component :: components
    else other :: setComponent component components

/-- Adds a component in the place of an earlier one of its id. -/
def insert (catalog : Catalog) (component : Component) : Catalog :=
  ⟨setComponent component catalog.components⟩

def ofList (components : List Component) : Catalog :=
  components.foldl insert empty

/-- The ids in alphabetical order. -/
def ids (catalog : Catalog) : List String :=
  (catalog.components.map Component.id).mergeSort fun a b => !Surrogate.precedes b a

theorem resolve_insert (catalog : Catalog) (component : Component) (id : String) :
    (catalog.insert component).resolve id =
      if component.id = id then some component else catalog.resolve id := by
  suffices ∀ components : List Component,
      (setComponent component components).find? (·.id = id) =
        if component.id = id then some component else components.find? (·.id = id) from
    this catalog.components
  intro components
  induction components with
  | nil => by_cases same : component.id = id <;> simp [setComponent, same]
  | cons other components ih =>
    by_cases known : other.id = component.id
    · rw [setComponent, if_pos known]
      by_cases same : component.id = id
      · simp [same]
      · simp [same, known]
    · rw [setComponent, if_neg known]
      by_cases here : other.id = id
      · have differ : component.id ≠ id := fun h => known (here.trans h.symm)
        simp [here, differ]
      · simp [here, ih]

end Catalog

end StepFlow
