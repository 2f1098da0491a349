import Criteria.Calendar.Stamp

/-!
# Dates and times in documents

A date is written with hyphens. After a `T` or blanks a time may follow, with colons, perhaps with a
fraction of a second, and perhaps with a distance from universal time.

* `Timestamp.ofText?` cuts such a text into its parts.
* `Timestamp.stamp` is the point in time, if the calendar has it.
-/

namespace Criteria.Yaml

/-- The time of a timestamp: hour, minute and second, the digits of the fraction, and the distance
from universal time in minutes. -/
structure TimeParts where
  hour : Nat
  minute : Nat
  second : Nat
  fraction : List Char
  offset : Option Int
  deriving Repr

/-- A timestamp as it is written. -/
structure Timestamp where
  year : Nat
  month : Nat
  day : Nat
  /-- Whether month and day are written with two digits each. -/
  isPadded : Bool
  time : Option TimeParts
  deriving Repr

namespace Timestamp

/-- The number that decimal digits denote. -/
def number (ds : List Char) : Nat := ds.foldl (fun n d => 10 * n + (d.toNat - 48)) 0

/-- Between `least` and `most` digits, as many as there are. -/
def digits? (least most : Nat) (cs : List Char) : Option (List Char × List Char) :=
  let ds := (cs.take most).takeWhile Char.isDigit
  if ds.length < least then none else some (ds, cs.drop ds.length)

/-- What follows a character that has to be here. -/
def after? (c : Char) : List Char → Option (List Char)
  | x :: cs => if x == c then some cs else none
  | [] => none

def isBlank (c : Char) : Bool := c == ' ' || c == '\t'

/-- The distance from universal time at the end of a text. -/
def offset? (cs : List Char) : Option (Option Int) :=
  match cs, cs.dropWhile isBlank with
  | [], _ => some none
  | _, ['Z'] => some (some 0)
  | _, sign :: rest => do
    if sign != '+' && sign != '-' then none
    let (hours, rest) ← digits? 1 2 rest
    let minutes ←
      match rest with
      | [] => some []
      | _ => do
        let (ds, rest) ← digits? 2 2 (← after? ':' rest)
        if rest.isEmpty then some ds else none
    let distance : Int := number hours * 60 + number minutes
    return some (if sign == '-' then -distance else distance)
  | _, [] => none

/-- The time that follows a date. -/
def time? (cs : List Char) : Option TimeParts := do
  let (hour, cs) ← digits? 1 2 cs
  let (minute, cs) ← digits? 2 2 (← after? ':' cs)
  let (second, cs) ← digits? 2 2 (← after? ':' cs)
  let (fraction, cs) := match cs with
    | '.' :: rest => (rest.takeWhile Char.isDigit, rest.dropWhile Char.isDigit)
    | _ => ([], cs)
  return ⟨number hour, number minute, number second, fraction, ← offset? cs⟩

/-- The parts of a timestamp. -/
def ofChars? (cs : List Char) : Option Timestamp := do
  let (year, cs) ← digits? 4 4 cs
  let (month, cs) ← digits? 1 2 (← after? '-' cs)
  let (day, cs) ← digits? 1 2 (← after? '-' cs)
  let time ←
    match cs with
    | [] => some none
    | c :: rest =>
      if c == 'T' || c == 't' then (time? rest).map some
      else if isBlank c then (time? (rest.dropWhile isBlank)).map some
      else none
  return ⟨number year, number month, number day, month.length == 2 && day.length == 2, time⟩

/-- The parts of a text; a line break at its end does not count. -/
def ofText? (text : String) : Option Timestamp :=
  let cs := text.toList
  (ofChars? cs).or (if cs.getLast? == some '\n' then ofChars? cs.dropLast else none)

/-- A fraction of a second in microseconds; further digits are dropped. -/
def microseconds (ds : List Char) : Nat :=
  let kept := ds.take 6
  number kept * Nat.pow 10 (6 - kept.length)

/-- The point in time. -/
def stamp (t : Timestamp) : Except CalendarFault Stamp :=
  match t.time with
  | none => do return .date (← Date.ofParts t.year t.month t.day)
  | some time => do
    let offset ← match time.offset with
      | none => pure none
      | some minutes => do pure (some (← Offset.check minutes))
    let date ← Date.ofParts t.year t.month t.day
    let clock ← Clock.ofParts time.hour time.minute time.second (microseconds time.fraction)
    return .moment date clock offset

end Timestamp

end Criteria.Yaml
