/-! Days and moments of the proleptic Gregorian calendar. -/
namespace StepFlow

/-- A calendar day. -/
structure Date where
  year : Nat
  month : Nat
  day : Nat
  deriving DecidableEq

/-- A time of day on a calendar day, with the offset from universal time in minutes
when it is known. -/
structure DateTime where
  date : Date
  hour : Nat
  minute : Nat
  second : Nat
  microsecond : Nat
  offset : Option Int
  deriving DecidableEq

/-- Why numbers do not name a day or a moment. -/
inductive CalendarFault where
  | year (year : Nat)
  | month
  | day
  | hour
  | minute
  | second
  /-- An offset of a day or more, in minutes. -/
  | offset (minutes : Int)
  deriving DecidableEq

namespace Date

def isLeap (year : Nat) : Bool :=
  year % 4 = 0 && (year % 100 ≠ 0 || year % 400 = 0)

def daysInMonth (year month : Nat) : Nat :=
  if month = 2 then (if isLeap year then 29 else 28)
  else if month = 4 || month = 6 || month = 9 || month = 11 then 30
  else 31

/-- The first part of a date that is out of range, from the year down. -/
def of? (year month day : Nat) : Except CalendarFault Date :=
  if year < 1 || 9999 < year then .error (.year year)
  else if month < 1 || 12 < month then .error .month
  else if day < 1 || daysInMonth year month < day then .error .day
  else .ok ⟨year, month, day⟩

/-- Days since the day before the first of the calendar. -/
def ordinal (d : Date) : Nat :=
  let y := d.year - 1
  365 * y + y / 4 - y / 100 + y / 400 +
    (List.range (d.month - 1)).foldl (fun days m => days + daysInMonth d.year (m + 1)) d.day

/-- Decimal digits, with zeros in front up to `width`. -/
def padded (width n : Nat) : String :=
  let digits := Nat.toDigits 10 n
  String.ofList (List.replicate (width - digits.length) '0' ++ digits)

def text (d : Date) : String :=
  padded 4 d.year ++ "-" ++ padded 2 d.month ++ "-" ++ padded 2 d.day

end Date

namespace DateTime

/-- Checks the day first, then the time from the hour down. -/
def of? (year month day hour minute second microsecond : Nat) (offset : Option Int) :
    Except CalendarFault DateTime := do
  let date ← Date.of? year month day
  if 23 < hour then .error .hour
  else if 59 < minute then .error .minute
  else if 59 < second then .error .second
  else .ok ⟨date, hour, minute, second, microsecond, offset⟩

/-- Microseconds since the start of the calendar, in universal time when the offset
is known and in local time otherwise. -/
def microseconds (t : DateTime) : Int :=
  let minutes : Int := (t.date.ordinal * 24 + t.hour) * 60 + t.minute
  ((minutes - t.offset.getD 0) * 60 + t.second) * 1000000 + t.microsecond

def offsetText (minutes : Int) : String :=
  (if minutes < 0 then "-" else "+") ++ Date.padded 2 (minutes.natAbs / 60) ++ ":" ++
    Date.padded 2 (minutes.natAbs % 60)

/-- Date, separator, time, then the fraction when there is one and the offset when it
is known. -/
def text (separator : String) (t : DateTime) : String :=
  t.date.text ++ separator ++ Date.padded 2 t.hour ++ ":" ++ Date.padded 2 t.minute ++ ":" ++
    Date.padded 2 t.second ++
    (if t.microsecond = 0 then "" else "." ++ Date.padded 6 t.microsecond) ++
    (t.offset.map offsetText).getD ""

/-- A duration of whole minutes, in days and seconds. -/
def durationText (minutes : Int) : String :=
  let days := Int.fdiv minutes 1440
  let seconds := (minutes - days * 1440) * 60
  let parts := (if days = 0 then [] else [s!"days={days}"]) ++
    (if seconds = 0 then [] else [s!"seconds={seconds}"])
  "datetime.timedelta(" ++ ", ".intercalate parts ++ ")"

end DateTime

end StepFlow
