import StepFlow.Text.Utf8
import StepFlow.Value.Scalar

/-! What a run depends on beside its command line, its environment and the files. The runs of one
program share an installation; an execution is a run's own. -/
namespace StepFlow

class Installation where
  /-- How many collections may be around a node that is read, itself included. -/
  readingDepth : Nat
  /-- How many collections of a value that is written may lie within one another. -/
  writingDepth : Nat
  /-- How many arrays and objects may be around a JSON value that is read. -/
  jsonDepth : Nat
  /-- The text of the configuration, if there is one. -/
  configuration : Option String

/-- The characters of which new names are made. -/
def nameLetters : List Char :=
  ['a', 'b', 'c', 'd', 'e', 'f', 'g', 'h', 'i', 'j', 'k', 'l', 'm', 'n', 'o', 'p', 'q', 'r', 's', 't',
    'u', 'v', 'w', 'x', 'y', 'z', '0', '1', '2', '3', '4', '5', '6', '7', '8', '9', '_']

class Execution where
  /-- The order in which the elements of a set are listed that were put in one after another. -/
  listing : List Scalar → List Scalar
  listing_perm (elements : List Scalar) : (listing elements).Perm elements
  /-- The report with which standard output refuses a text; there is none if it takes it. -/
  refusal? : String → Option String
  /-- The letters that make a name a new one, for each attempt to find it. -/
  letters : Nat → String
  length_letters (attempt : Nat) : (letters attempt).toList.length = 8
  letters_plain (attempt : Nat) : ∀ c ∈ (letters attempt).toList, c ∈ nameLetters

/-- An installation with a configuration that sets nothing. -/
@[reducible] def Installation.usual : Installation where
  readingDepth := 488
  writingDepth := 328
  jsonDepth := 990
  configuration := some "defaults: \x7b\x7d\n"

/-- An execution that lists elements as they were put in and prints in UTF-8. -/
@[reducible] def Execution.usual : Execution where
  listing elements := elements
  listing_perm _ := .rfl
  refusal? := Utf8.refusal? fun _ => false
  letters attempt := String.ofList ['a', 'b', 'c', 'd', 'e', 'f', 'g', Nat.digitChar (attempt % 10)]
  length_letters _ := by simp
  letters_plain attempt := by
    have digit : ∀ n < 10, Nat.digitChar n ∈ nameLetters := by decide
    have last := digit (attempt % 10) (Nat.mod_lt _ (by decide))
    simp only [String.toList_ofList, List.forall_mem_cons]
    exact ⟨by decide, by decide, by decide, by decide, by decide, by decide, by decide, last, List.forall_mem_nil _⟩

end StepFlow
