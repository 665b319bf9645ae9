import StepFlow.Text.Blank
import StepFlow.Text.Digit

/-! The words of a command line: options, in full or abbreviated, with or without an
attached value, and everything else. -/
namespace StepFlow.Command

/-- Why no command is carried out. -/
inductive Stop where
  /-- The words make no command. -/
  | misuse
  | help
  | version
  deriving DecidableEq

inductive Switch where
  | help (short : Bool)
  | version
  | flag (name : String)
  /-- A value follows; without choices it may be any. -/
  | value (name : String) (choices : List String)
  deriving DecidableEq

/-- A switch in one of its spellings. -/
structure Form where
  spelling : String
  switch : Switch
  deriving DecidableEq

inductive Word where
  | plain (text : String)
  /-- Two hyphens, after which no word is an option. -/
  | separator
  | option (switch : Switch) (attached : Option String)
  | unknown
  deriving DecidableEq

namespace Word

def separatorText : String := "--"

/-- A text in front of its first equals sign, and what comes after it. -/
def cutValue (text : List Char) : List Char × Option String :=
  let front := text.takeWhile (· ≠ '=')
  let value? :=
    if front.length < text.length then some (String.ofList (text.drop (front.length + 1)))
    else none
  (front, value?)

/-- The option that a form makes of a text: a short one may have the rest of the text
attached, others may be cut short. -/
def matchForm? (text : List Char) (form : Form) : Option Word :=
  let spelling := form.spelling.toList
  if "--".toList.isPrefixOf text then
    let (front, attached) := cutValue text
    if front.isPrefixOf spelling then some (.option form.switch attached) else none
  else if spelling = text.take 2 then
    some (.option form.switch (some (String.ofList (text.drop 2))))
  else if text.isPrefixOf spelling then some (.option form.switch none)
  else none

def isDigits (cs : List Char) : Bool :=
  !cs.isEmpty && cs.all fun c => (digitValue? c).isSome

/-- Digits after a hyphen, with a point in front of some of them or without. -/
def isNegativeNumber : List Char → Bool
  | '-' :: cs =>
    let cs := dropLineFeed cs
    let whole := cs.takeWhile (· ≠ '.')
    if whole.length = cs.length then isDigits cs
    else (whole.isEmpty || isDigits whole) && isDigits (cs.drop (whole.length + 1))
  | _ => false

/-- A word that starts with a hyphen and is not an option in full. Negative numbers and
texts with spaces are plain unless they begin like an option. -/
def ofAbbreviation (forms : List Form) (text : List Char) : Except Stop Word :=
  match forms.filterMap (matchForm? text) with
  | [word] => .ok word
  | _ :: _ :: _ => .error .misuse
  | [] =>
    if isNegativeNumber text || text.contains ' ' then .ok (.plain (String.ofList text))
    else .ok .unknown

/-- A word. An option named in full ends at an equals sign, but a short one has even that
attached. -/
def ofText (forms : List Form) (text : String) : Except Stop Word :=
  let cs := text.toList
  if cs.head? ≠ some '-' then .ok (.plain text)
  else
    match forms.find? (·.spelling = text) with
    | some form => .ok (.option form.switch none)
    | none =>
      if cs.length = 1 then .ok (.plain text)
      else
        let (front, attached) := cutValue cs
        let isNamed (form : Form) := form.spelling.toList = front && 2 < front.length
        match attached, forms.find? isNamed with
        | some _, some form => .ok (.option form.switch attached)
        | _, _ => ofAbbreviation forms cs

/-- The words of a command line. -/
def ofTexts (forms : List Form) : List String → Except Stop (List Word)
  | [] => .ok []
  | text :: texts =>
    if text = separatorText then .ok (.separator :: texts.map .plain)
    else do
      let word ← ofText forms text
      return word :: (← ofTexts forms texts)

end Word

/-- Where help is asked for. What is attached to the short form is taken for more short
options, unless a hyphen or an equals sign begins it. -/
def helpStop (short : Bool) : Option String → Stop
  | none => .help
  | some attached =>
    match attached.toList.dropWhile (· = 'h') with
    | '=' :: _ => .misuse
    | '-' :: _ => .misuse
    | _ => if short then .help else .misuse

/-- Where the version is asked for; nothing may be attached. -/
def versionStop (attached : Option String) : Stop :=
  if attached.isNone then .version else .misuse

end StepFlow.Command
