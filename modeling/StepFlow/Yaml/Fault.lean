import StepFlow.Number.Digits
import StepFlow.Text.Quoted
import StepFlow.Value.Calendar
import StepFlow.Yaml.Cursor

/-! Why a text cannot be read as a document: its characters, its layout, its
structure, or the values that its scalars stand for. -/
namespace StepFlow.Yaml

/-- What was being read when a problem came up. -/
inductive Activity where
  | simpleKey
  | nextToken
  | directive
  | aliasName
  | anchor
  | tag
  | tagText
  | directiveText
  | blockScalar
  | doubleQuoted
  | quoted
  | node
  | blockNode
  | flowNode
  | blockCollection
  | blockMapping
  | flowSequence
  | flowMapping
  | mapping
  | orderedMap
  | pairs
  | singleDocument
  /-- A name was bound here before. -/
  | firstAnchor (name : String)
  deriving DecidableEq

inductive Problem where
  | noColon
  | cannotStartToken (found : Char)
  | entriesNotAllowed
  | keysNotAllowed
  | valuesNotAllowed
  /-- Something other than the described text stands here. -/
  | expected (description : String) (found : Char)
  | zeroIndentation
  | hexDigits (count : Nat) (found : Char)
  | unknownEscape (found : Char)
  | endOfStream
  | documentSeparator
  | uriBytes (reason : String)
  | expectedToken (description : String) (found : String)
  | gotToken (description : String) (found : String)
  | duplicateVersion
  | wrongVersion
  | duplicateHandle (handle : String)
  | undefinedHandle (handle : String)
  | secondAnchor
  | undefinedAlias (name : String)
  | anotherDocument
  | unhashableKey
  | noConstructor (tag : String)
  | notScalar (found : String)
  | notSequence (found : String)
  | notMapping (found : String)
  | mergeNotMapping (found : String)
  | mergeNotMappings (found : String)
  | entriesNotSequence (found : String)
  | entryNotMapping (found : String)
  | entryCount (found : Nat)
  | binaryNotAscii (reason : String)
  | binaryNotBase64 (reason : String)
  deriving DecidableEq

/-- The part of reading that found a problem. -/
inductive Stage where
  | characters
  | tokens
  | grammar
  | links
  | values
  deriving DecidableEq

/-- A problem at a place, with what was being read and where that began. -/
structure Fault where
  stage : Stage
  activity : Option (Activity × Mark)
  problem : Problem
  mark : Mark
  deriving DecidableEq

/-- A scalar that does not denote a value of the type its tag names, or a value that goes
too deep. -/
inductive ValueFault where
  | integer (base : Nat) (text : String)
  | digitLimit (digits : Nat)
  | decimal (text : String)
  | calendar (fault : CalendarFault)
  | codePoint (code : Nat)
  | emptyNumber
  /-- A unit of sixty is beyond the numbers that its part could be. -/
  | unitTooLarge
  | truthValue
  | timestamp
  /-- A day or a moment is asked of something that is no text. -/
  | timestampParts
  /-- Collections are nested more deeply than they may be. -/
  | tooDeep
  deriving DecidableEq

/-- Whether a value is refused for what it says. The other faults are of scalars that are
nothing that their tag could mean, and users of a text are not prepared for them. -/
def ValueFault.isRefusal : ValueFault → Bool
  | codePoint code => code < 0x80000000
  | emptyNumber => false
  | unitTooLarge => false
  | truthValue => false
  | timestamp => false
  | timestampParts => false
  | tooDeep => false
  | _ => true

inductive Failure where
  /-- A character that no document may contain, at an offset. -/
  | unreadable (c : Char) (offset : Nat)
  | fault (fault : Fault)
  | value (fault : ValueFault)
  /-- The text has a value that no `Value` is: a collection lies within itself, or a character
  stands in a text that holds none such. -/
  | outside
  deriving DecidableEq

def Activity.text : Activity → String
  | simpleKey => "while scanning a simple key"
  | nextToken => "while scanning for the next token"
  | directive => "while scanning a directive"
  | aliasName => "while scanning an alias"
  | anchor => "while scanning an anchor"
  | tag => "while scanning a tag"
  | tagText => "while parsing a tag"
  | directiveText => "while parsing a directive"
  | blockScalar => "while scanning a block scalar"
  | doubleQuoted => "while scanning a double-quoted scalar"
  | quoted => "while scanning a quoted scalar"
  | node => "while parsing a node"
  | blockNode => "while parsing a block node"
  | flowNode => "while parsing a flow node"
  | blockCollection => "while parsing a block collection"
  | blockMapping => "while parsing a block mapping"
  | flowSequence => "while parsing a flow sequence"
  | flowMapping => "while parsing a flow mapping"
  | mapping => "while constructing a mapping"
  | orderedMap => "while constructing an ordered map"
  | pairs => "while constructing pairs"
  | singleDocument => "expected a single document in the stream"
  | firstAnchor name => s!"found duplicate anchor {Quoted.text name}; first occurrence"

def quotedChar (c : Char) : String :=
  String.ofList (Quoted.chars [c])

def Problem.text : Problem → String
  | noColon => "could not find expected ':'"
  | cannotStartToken c => s!"found character {quotedChar c} that cannot start any token"
  | entriesNotAllowed => "sequence entries are not allowed here"
  | keysNotAllowed => "mapping keys are not allowed here"
  | valuesNotAllowed => "mapping values are not allowed here"
  | expected description c => s!"expected {description}, but found {quotedChar c}"
  | zeroIndentation => "expected indentation indicator in the range 1-9, but found 0"
  | hexDigits count c =>
    s!"expected escape sequence of {count} hexadecimal numbers, but found {quotedChar c}"
  | unknownEscape c => s!"found unknown escape character {quotedChar c}"
  | endOfStream => "found unexpected end of stream"
  | documentSeparator => "found unexpected document separator"
  | uriBytes reason => reason
  | expectedToken description found => s!"expected {description}, but found {Quoted.text found}"
  | gotToken description found => s!"expected {description}, but got {Quoted.text found}"
  | duplicateVersion => "found duplicate YAML directive"
  | wrongVersion => "found incompatible YAML document (version 1.* is required)"
  | duplicateHandle handle => s!"duplicate tag handle {Quoted.text handle}"
  | undefinedHandle handle => s!"found undefined tag handle {Quoted.text handle}"
  | secondAnchor => "second occurrence"
  | undefinedAlias name => s!"found undefined alias {Quoted.text name}"
  | anotherDocument => "but found another document"
  | unhashableKey => "found unhashable key"
  | noConstructor tag => s!"could not determine a constructor for the tag {Quoted.text tag}"
  | notScalar found => s!"expected a scalar node, but found {found}"
  | notSequence found => s!"expected a sequence node, but found {found}"
  | notMapping found => s!"expected a mapping node, but found {found}"
  | mergeNotMapping found => s!"expected a mapping for merging, but found {found}"
  | mergeNotMappings found =>
    s!"expected a mapping or list of mappings for merging, but found {found}"
  | entriesNotSequence found => s!"expected a sequence, but found {found}"
  | entryNotMapping found => s!"expected a mapping of length 1, but found {found}"
  | entryCount found => s!"expected a single mapping item, but found {found} items"
  | binaryNotAscii reason => s!"failed to convert base64 data into ascii: {reason}"
  | binaryNotBase64 reason => s!"failed to decode base64 data: {reason}"

/-- The line of a text around a place, cut to a window, with a caret under the place. -/
def snippet (text : String) (mark : Mark) : String :=
  let window := 37
  let before := ((text.toList.take mark.index).reverse.takeWhile (fun c => !isLineEnd c)).reverse
  let after := (text.toList.drop mark.index).takeWhile (fun c => !isLineEnd c)
  let cut := " ... ".toList
  let (head, shownBefore) :=
    if window ≤ before.length then (cut, before.drop (before.length - window + 5))
    else ([], before)
  let (tail, shownAfter) :=
    if window ≤ after.length then (cut, after.take (window - 5)) else ([], after)
  let indent := List.replicate 4 ' '
  String.ofList (indent ++ head ++ shownBefore ++ shownAfter ++ tail ++ ['\n'] ++
    List.replicate (4 + shownBefore.length + head.length) ' ' ++ ['^'])

def Mark.describe (text : String) (mark : Mark) : String :=
  s!"  in \"<unicode string>\", line {mark.line + 1}, column {mark.column + 1}:\n" ++
    snippet text mark

/-- The full report. The beginning of the activity is shown unless the problem is at
the same place. -/
def Fault.message (text : String) (fault : Fault) : String :=
  let activity := match fault.activity with
    | none => []
    | some (activity, mark) =>
      activity.text ::
        if mark.line = fault.mark.line ∧ mark.column = fault.mark.column then []
        else [mark.describe text]
  "\n".intercalate (activity ++ [fault.problem.text, fault.mark.describe text])

def unreadableText (c : Char) (offset : Nat) : String :=
  s!"unacceptable character #x{String.ofList (Quoted.hex 4 (Surrogate.codeOf c))}: " ++
    s!"special characters are not allowed\n  in \"<unicode string>\", position {offset}"

def calendarText : CalendarFault → String
  | .year year => s!"year {year} is out of range"
  | .month => "month must be in 1..12"
  | .day => "day is out of range for month"
  | .hour => "hour must be in 0..23"
  | .minute => "minute must be in 0..59"
  | .second => "second must be in 0..59"
  | .offset minutes =>
    "offset must be a timedelta strictly between -timedelta(hours=24) and timedelta(hours=24), not "
      ++ DateTime.durationText minutes ++ "."

/-- How many characters of a refused number, its quotes included, a message shows. -/
def shownLiteral : Nat := 200

def ValueFault.text : ValueFault → String
  | integer base text =>
    let shown := String.ofList ((Quoted.text text).toList.take shownLiteral)
    s!"invalid literal for int() with base {base}: {shown}"
  | digitLimit digits =>
    s!"{digitLimitText}: value has {digits} digits; {digitLimitAdvice}"
  | decimal text => s!"could not convert string to float: {Quoted.text text}"
  | calendar fault => calendarText fault
  | codePoint _ => "chr() arg not in range(0x110000)"
  | emptyNumber => "string index out of range"
  | unitTooLarge => "int too large to convert to float"
  | truthValue => "not a truth value"
  | timestamp => "not a timestamp"
  | timestampParts => "not a text"
  | tooDeep => "too many nested values"

/-- Whether a failure says no more than that the text is not what it should be. -/
def Failure.isRefusal : Failure → Bool
  | .value refused => refused.isRefusal
  | .outside => false
  | _ => true

/-- The full report of a failure to read a text. -/
def Failure.message (text : String) : Failure → String
  | .unreadable c offset => unreadableText c offset
  | .fault cause => cause.message text
  | .value cause => cause.text
  | .outside => ""

end StepFlow.Yaml
