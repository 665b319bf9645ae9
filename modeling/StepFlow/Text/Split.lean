/-! Cutting a text at a separator. -/
namespace StepFlow

/-- Splits at every occurrence of one character; the pieces may be empty. -/
def splitChars (sep : Char) : List Char → List (List Char)
  | [] => [[]]
  | c :: cs =>
    if c = sep then [] :: splitChars sep cs
    else
      match splitChars sep cs with
      | [] => [[c]]
      | piece :: pieces => (c :: piece) :: pieces

/-- The pieces of a text between occurrences of one character. -/
def splitText (sep : Char) (s : String) : List String :=
  (splitChars sep s.toList).map String.ofList

end StepFlow
