import StepFlow.Text.Blank
import StepFlow.Text.Split
import StepFlow.Value.Calendar

/-! The types of scalars that stand without quotes, by the form of their text. -/
namespace StepFlow.Yaml

/-- The common beginning of the standard tags. -/
def standardTag (name : String) : String :=
  "tag:yaml.org,2002:" ++ name

/-- Drops one sign. -/
def unsigned : List Char → List Char
  | '-' :: cs => cs
  | '+' :: cs => cs
  | cs => cs

def isDigitOrLow (c : Char) : Bool :=
  c.isDigit || c = '_'

def isOctalOrLow (c : Char) : Bool :=
  ('0' ≤ c && c ≤ '7') || c = '_'

def isBinaryOrLow (c : Char) : Bool :=
  c = '0' || c = '1' || c = '_'

def isHexOrLow (c : Char) : Bool :=
  c.isDigit || ('a' ≤ c && c ≤ 'f') || ('A' ≤ c && c ≤ 'F') || c = '_'

/-- A digit, then digits and low lines. -/
def isNumeral : List Char → Bool
  | c :: cs => c.isDigit && cs.all isDigitOrLow
  | [] => false

/-- One or two digits below sixty. -/
def isSixtieth : List Char → Bool
  | [c] => c.isDigit
  | [c, d] => '0' ≤ c && c ≤ '5' && d.isDigit
  | _ => false

/-- Nothing, or an exponent with a sign and digits. -/
def isExponent : List Char → Bool
  | [] => true
  | mark :: sign :: digits =>
    (mark = 'e' || mark = 'E') && (sign = '-' || sign = '+') && !digits.isEmpty &&
      digits.all Char.isDigit
  | _ => false

def isBoolText (s : String) : Bool :=
  ["yes", "Yes", "YES", "no", "No", "NO", "true", "True", "TRUE", "false", "False", "FALSE",
    "on", "On", "ON", "off", "Off", "OFF"].contains s

def isNullText (s : String) : Bool :=
  ["", "~", "null", "Null", "NULL"].contains s

/-- A number in units of sixty. -/
def isSexagesimal (cs : List Char) : Bool :=
  match splitChars ':' cs with
  | first :: second :: rest => isNumeral first && (second :: rest).all isSixtieth
  | _ => false

/-- A decimal fraction: a point is needed, and an exponent must carry a sign. -/
def isFloatText (cs : List Char) : Bool :=
  let body := unsigned cs
  let whole := body.takeWhile (· ≠ '.')
  match body.dropWhile (· ≠ '.') with
  | '.' :: fraction =>
    let isSigned := body.length < cs.length
    let afterDigits := fraction.dropWhile isDigitOrLow
    let word := String.ofList fraction
    (isNumeral whole && isExponent afterDigits) ||
      (!isSigned && whole.isEmpty && isNumeral (fraction.takeWhile isDigitOrLow) &&
        isExponent afterDigits) ||
      (isSexagesimal whole && afterDigits.isEmpty) ||
      (whole.isEmpty && ["inf", "Inf", "INF"].contains word) ||
      (!isSigned && whole.isEmpty && ["nan", "NaN", "NAN"].contains word)
  | _ => false

def isIntText (cs : List Char) : Bool :=
  match unsigned cs with
  | ['0'] => true
  | '0' :: 'b' :: digits => !digits.isEmpty && digits.all isBinaryOrLow
  | '0' :: 'x' :: digits => !digits.isEmpty && digits.all isHexOrLow
  | '0' :: digits => digits.all isOctalOrLow
  | body => isNumeral body || isSexagesimal body

/-- The written parts of a day or a moment. The zone is a sign with hours and minutes;
a bare zone letter is no offset. -/
structure TimeText where
  year : Nat
  month : List Char
  day : List Char
  clock : Option (Nat × Nat × Nat)
  fraction : List Char
  zone : Option (Bool × Nat × Nat)

def natOf (digits : List Char) : Nat :=
  digits.foldl (fun n c => n * 10 + (c.toNat - 48)) 0

/-- Reads between `least` and `most` digits. -/
def digitRun? (least most : Nat) (cs : List Char) : Option (List Char × List Char) :=
  let run := (cs.take most).takeWhile Char.isDigit
  if least ≤ run.length then some (run, cs.drop run.length) else none

def dropChar? (c : Char) : List Char → Option (List Char)
  | d :: cs => if d = c then some cs else none
  | [] => none

def isBlankChar (c : Char) : Bool := c = ' ' || c = '\t'

/-- The zone at the end of a moment: blanks, then a letter or a signed offset. -/
def zone? (cs : List Char) : Option (Option (Bool × Nat × Nat)) :=
  if cs.isEmpty then some none
  else
    match cs.dropWhile isBlankChar with
    | ['Z'] => some (some (false, 0, 0))
    | sign :: cs => do
      guard (sign = '-' || sign = '+')
      let (hours, cs) ← digitRun? 1 2 cs
      match cs with
      | [] => return some (sign = '-', natOf hours, 0)
      | ':' :: cs =>
        let (minutes, cs) ← digitRun? 2 2 cs
        guard cs.isEmpty
        return some (sign = '-', natOf hours, natOf minutes)
      | _ => none
    | [] => none

/-- The parts of a text that is written as a day or a moment. -/
def timeText? (cs : List Char) : Option TimeText := do
  let (year, cs) ← digitRun? 4 4 cs
  let cs ← dropChar? '-' cs
  let (month, cs) ← digitRun? 1 2 cs
  let cs ← dropChar? '-' cs
  let (day, cs) ← digitRun? 1 2 cs
  match cs with
  | [] => return ⟨natOf year, month, day, none, [], none⟩
  | c :: rest =>
    let cs ← if c = 'T' || c = 't' then some rest
      else if isBlankChar c then some (rest.dropWhile isBlankChar)
      else none
    let (hour, cs) ← digitRun? 1 2 cs
    let cs ← dropChar? ':' cs
    let (minute, cs) ← digitRun? 2 2 cs
    let cs ← dropChar? ':' cs
    let (second, cs) ← digitRun? 2 2 cs
    let (fraction, cs) := match cs with
      | '.' :: cs => (cs.takeWhile Char.isDigit, cs.dropWhile Char.isDigit)
      | cs => ([], cs)
    let zone ← zone? cs
    return ⟨natOf year, month, day, some (natOf hour, natOf minute, natOf second), fraction, zone⟩

/-- A day alone needs two digits for the month and for the day. -/
def isTimeText (cs : List Char) : Bool :=
  match timeText? cs with
  | some t => t.clock.isSome || (t.month.length = 2 && t.day.length = 2)
  | none => false

/-- The characters that decide on a type: a line feed behind others does not count. -/
def decisiveChars (cs : List Char) : List Char :=
  match cs with
  | [c] => [c]
  | cs => dropLineFeed cs

/-- The tag of a scalar without quotes and without a tag of its own. -/
def resolve (written : String) : String :=
  let cs := decisiveChars written.toList
  let text := String.ofList cs
  standardTag <|
    if isBoolText text then "bool"
    else if isFloatText cs then "float"
    else if isIntText cs then "int"
    else if text = "<<" then "merge"
    else if isNullText text then "null"
    else if isTimeText cs then "timestamp"
    else if text = "=" then "value"
    else if ["!", "&", "*"].contains text then "yaml"
    else "str"

end StepFlow.Yaml
