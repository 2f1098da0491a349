/-!
# Dates and times

A `Stamp` is a date, a time of day, or both, the last with or without its distance from universal
time.

* `Date.ofParts` and `Clock.ofParts` accept the parts that a calendar has and name the first one it
  does not have; `checkOffset` accepts distances of less than a day.
* `Stamp.text` is the usual form, `Stamp.literal` the form that tells a stamp from a text.
* `Stamp.eq` compares instants: two stamps with offsets may be equal though their parts differ.
* `Stamp.compare?` is the order in time, as far as there is one.
-/

namespace Criteria

/-- The first part that no calendar has. -/
inductive CalendarFault where
  | year (n : Nat)
  | month
  | day
  | hour
  | minute
  | second
  /-- The distance from universal time is a day or more. -/
  | offset (minutes : Int)
  deriving DecidableEq, Repr

/-- A day. -/
structure Date where
  year : Nat
  month : Nat
  day : Nat
  deriving DecidableEq, Repr

/-- A time of day. -/
structure Clock where
  hour : Nat
  minute : Nat
  second : Nat
  microsecond : Nat
  deriving DecidableEq, Repr

/-- A point in time, as far as it is known. -/
inductive Stamp where
  | date (d : Date)
  | time (t : Clock)
  /-- Both; `offset` is the distance from universal time in minutes. -/
  | moment (d : Date) (t : Clock) (offset : Option Int)
  deriving DecidableEq, Repr

/-- A number with at least `width` digits. -/
def padded (width n : Nat) : String :=
  let digits := toString n
  String.ofList (List.replicate (width - digits.length) '0') ++ digits

namespace Date

def isLeap (year : Nat) : Bool := year % 4 == 0 && (year % 100 != 0 || year % 400 == 0)

/-- The number of days of a month. -/
def daysIn (year month : Nat) : Nat :=
  if month = 2 then if isLeap year then 29 else 28
  else if [4, 6, 9, 11].contains month then 30
  else 31

def ofParts (year month day : Nat) : Except CalendarFault Date :=
  if year < 1 || 9999 < year then .error (.year year)
  else if month < 1 || 12 < month then .error .month
  else if day < 1 || daysIn year month < day then .error .day
  else .ok ⟨year, month, day⟩

/-- The number of days before the date since the first day of year 1. -/
def ordinal (d : Date) : Nat :=
  let years := d.year - 1
  let months := (List.range (d.month - 1)).map fun i => daysIn d.year (i + 1)
  365 * years + years / 4 - years / 100 + years / 400 + months.foldl (· + ·) 0 + (d.day - 1)

def text (d : Date) : String := s!"{padded 4 d.year}-{padded 2 d.month}-{padded 2 d.day}"

end Date

namespace Clock

def ofParts (hour minute second microsecond : Nat) : Except CalendarFault Clock :=
  if 23 < hour then .error .hour
  else if 59 < minute then .error .minute
  else if 59 < second then .error .second
  else .ok ⟨hour, minute, second, microsecond⟩

/-- The number of microseconds since midnight. -/
def microseconds (t : Clock) : Nat :=
  ((t.hour * 60 + t.minute) * 60 + t.second) * 1000000 + t.microsecond

/-- The six digits of a fraction of a second are written unless they are zeros. -/
def text (t : Clock) : String :=
  s!"{padded 2 t.hour}:{padded 2 t.minute}:{padded 2 t.second}"
    ++ if t.microsecond = 0 then "" else "." ++ padded 6 t.microsecond

/-- The parts that a literal lists: seconds and microseconds only as far as they are not zero. -/
def listed (t : Clock) : List Nat :=
  if t.microsecond != 0 then [t.hour, t.minute, t.second, t.microsecond]
  else if t.second != 0 then [t.hour, t.minute, t.second]
  else [t.hour, t.minute]

end Clock

namespace Offset

/-- Accepts a distance of less than a day. -/
def check (minutes : Int) : Except CalendarFault Int :=
  if minutes.natAbs < 1440 then .ok minutes else .error (.offset minutes)

def text (minutes : Int) : String :=
  let n := minutes.natAbs
  (if minutes < 0 then "-" else "+") ++ padded 2 (n / 60) ++ ":" ++ padded 2 (n % 60)

/-- The distance as whole days and the seconds after them. -/
def span (minutes : Int) : String :=
  let days := Int.fdiv minutes 1440
  let seconds := Int.fmod minutes 1440 * 60
  let parts := (if days = 0 then [] else [s!"days={days}"])
    ++ if seconds = 0 then [] else [s!"seconds={seconds}"]
  "datetime.timedelta(" ++ (if parts.isEmpty then "0" else ", ".intercalate parts) ++ ")"

def literal (minutes : Int) : String :=
  if minutes = 0 then "datetime.timezone.utc" else s!"datetime.timezone({span minutes})"

end Offset

def CalendarFault.message : CalendarFault → String
  | year n => s!"year {n} is out of range"
  | month => "month must be in 1..12"
  | day => "day is out of range for month"
  | hour => "hour must be in 0..23"
  | minute => "minute must be in 0..59"
  | second => "second must be in 0..59"
  | offset minutes =>
    "offset must be a timedelta strictly between -timedelta(hours=24) and timedelta(hours=24), "
      ++ s!"not {Offset.span minutes}."

namespace Stamp

/-- The name of the kind of stamp. -/
def className : Stamp → String
  | date _ => "date"
  | time _ => "time"
  | moment .. => "datetime"

def text : Stamp → String
  | date d => d.text
  | time t => t.text
  | moment d t offset => d.text ++ " " ++ t.text ++ (offset.map Offset.text).getD ""

def literal : Stamp → String
  | date d => s!"datetime.date({d.year}, {d.month}, {d.day})"
  | time t => "datetime.time(" ++ ", ".intercalate (t.listed.map toString) ++ ")"
  | moment d t offset =>
    let parts := ([d.year, d.month, d.day] ++ t.listed).map toString
    let zone := (offset.map fun m => ", tzinfo=" ++ Offset.literal m).getD ""
    "datetime.datetime(" ++ ", ".intercalate parts ++ zone ++ ")"

/-- The number of microseconds since the first day of year 1, in universal time. -/
def instant (d : Date) (t : Clock) (offset : Int) : Int :=
  d.ordinal * 86400000000 + t.microseconds - offset * 60000000

/-- Equality: moments with offsets are equal if they are one instant. -/
def eq : Stamp → Stamp → Bool
  | moment d t (some m), moment e u (some n) => instant d t m == instant e u n
  | a, b => a == b

/-- Which of two stamps is the earlier one. Only stamps of one kind can be told apart so, and of two
moments both must have an offset or neither. -/
def compare? : Stamp → Stamp → Option Ordering
  | date d, date e => some (compare d.ordinal e.ordinal)
  | time t, time u => some (compare t.microseconds u.microseconds)
  | moment d t none, moment e u none => some (compare (instant d t 0) (instant e u 0))
  | moment d t (some m), moment e u (some n) => some (compare (instant d t m) (instant e u n))
  | _, _ => none

end Stamp

end Criteria
