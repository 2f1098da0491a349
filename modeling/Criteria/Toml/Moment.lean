import Criteria.Calendar.Stamp

/-!
# Dates and times in settings files

A date is written with hyphens, a time with colons and perhaps a fraction of a second. A date may
stand alone, or a time after a `T` or a blank follows it, which may have a distance from universal
time; a time may stand alone, too.

* `Moment.read?` reads what stands at the start of a text, if it has the form of a date or a time;
  its value is none if the calendar does not have it.
-/

namespace Criteria.Toml.Moment

/-- Exactly `count` digits, as a number. -/
def digits? (count : Nat) (cs : List Char) : Option (Nat × List Char) :=
  let ds := cs.take count
  if ds.length = count && ds.all Char.isDigit then
    some (ds.foldl (fun n d => 10 * n + (d.toNat - 48)) 0, cs.drop count)
  else none

/-- What follows a character that has to be here. -/
def after? (c : Char) : List Char → Option (List Char)
  | x :: cs => if x == c then some cs else none
  | [] => none

/-- Two digits that denote a number in a range. -/
def pair? (least most : Nat) (cs : List Char) : Option (Nat × List Char) := do
  let (n, rest) ← digits? 2 cs
  if least ≤ n && n ≤ most then some (n, rest) else none

/-- A fraction of a second in microseconds; further digits are dropped. -/
def fraction (cs : List Char) : Nat × List Char :=
  match cs with
  | '.' :: rest =>
    let ds := rest.takeWhile Char.isDigit
    let kept := ds.take 6
    if ds.isEmpty then (0, cs)
    else
      (kept.foldl (fun n d => 10 * n + (d.toNat - 48)) 0 * Nat.pow 10 (6 - kept.length),
        rest.drop ds.length)
  | _ => (0, cs)

/-- A time of day. -/
def clock? (cs : List Char) : Option (Clock × List Char) := do
  let (hour, cs) ← pair? 0 23 cs
  let (minute, cs) ← pair? 0 59 (← after? ':' cs)
  let (second, cs) ← pair? 0 59 (← after? ':' cs)
  let (microsecond, cs) := fraction cs
  return (⟨hour, minute, second, microsecond⟩, cs)

/-- The distance from universal time in minutes. -/
def offset? : List Char → Option (Int × List Char)
  | [] => none
  | c :: cs =>
    if c == 'Z' || c == 'z' then some (0, cs)
    else if c == '+' || c == '-' then do
      let (hours, cs) ← pair? 0 23 cs
      let (minutes, cs) ← pair? 0 59 (← after? ':' cs)
      let distance : Int := hours * 60 + minutes
      return (if c == '-' then -distance else distance, cs)
    else none

/-- A time after a date. -/
def timeAfter? (cs : List Char) : Option (Clock × Option Int × List Char) :=
  match cs with
  | c :: rest =>
    if c == 'T' || c == 't' || c == ' ' then do
      let (t, rest) ← clock? rest
      match offset? rest with
      | some (minutes, rest) => return (t, some minutes, rest)
      | none => return (t, none, rest)
    else none
  | [] => none

/-- A date, perhaps with a time. -/
def date? (cs : List Char) : Option (Option Stamp × List Char) := do
  let (year, cs) ← digits? 4 cs
  let (month, cs) ← pair? 1 12 (← after? '-' cs)
  let (day, cs) ← pair? 1 31 (← after? '-' cs)
  let date := (Date.ofParts year month day).toOption
  match timeAfter? cs with
  | none => return (date.map .date, cs)
  | some (t, offset, rest) => return (date.map (.moment · t offset), rest)

/-- A date or a time. -/
def read? (cs : List Char) : Option (Option Stamp × List Char) :=
  (date? cs).or ((clock? cs).map fun (t, rest) => (some (.time t), rest))

end Criteria.Toml.Moment
