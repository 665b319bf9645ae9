import StepFlow.Text.Blank
import StepFlow.Value.Scalar

/-! Ids of inserted nodes: made from a hint, and told apart from those in use. -/
namespace StepFlow.Ids

/-- Hints that stand for no id. -/
def placeholderHints : List String :=
  ["STEP", "NODE", "COMPONENT_STEP", "INSERT_NODE", "NEW_NODE"]

/-- Whether a hint is missing, blank, or stands for no id. -/
def isPlaceholderHint : Option String → Bool
  | none => true
  | some hint => isBlankText hint || placeholderHints.contains (trim hint)

def isSlugChar (c : Char) : Bool :=
  c.isAlphanum || c = '_' || c = '-'

/-- Puts a low line in front of what does not start with a letter or a low line. -/
def lead : List Char → List Char
  | [] => ['_']
  | c :: cs => if c.isAlpha || c = '_' then c :: cs else '_' :: c :: cs

def slugChars (cs : List Char) : List Char :=
  lead (cs.map fun c => if isSlugChar c then c else '_')

/-- The text as an id: low lines for what an id may not hold. -/
def slugify (s : String) : String :=
  String.ofList (slugChars s.toList)

/-- The id that a hint asks for; without a genuine hint, one after the anchor. -/
def base (hint : Option String) (anchor : String) : String :=
  match hint with
  | some genuine =>
    if isPlaceholderHint hint then "node__after__" ++ slugify anchor else slugify (trim genuine)
  | none => "node__after__" ++ slugify anchor

def numbered (base : String) (n : Nat) : String :=
  base ++ "__" ++ toString n

/-- The first number from `n` on whose id is not in use. -/
def firstFree (existing : List Scalar) (base : String) : Nat → Nat → Nat
  | 0, n => n
  | fuel + 1, n =>
    if existing.contains (.str (numbered base n)) then firstFree existing base fuel (n + 1) else n

/-- An id that is not in use. Of as many numbers as there are ids, and one more, at least
one is free. -/
def generate (hint : Option String) (anchor : String) (existing : List Scalar) : String :=
  let base := base hint anchor
  if existing.contains (.str base) then
    numbered base (firstFree existing base existing.length 2)
  else base

end StepFlow.Ids
