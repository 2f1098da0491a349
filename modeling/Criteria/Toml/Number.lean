import Criteria.Text.Numeral
import Criteria.Value.Basic

/-!
# Numbers in settings files

Integers are decimal, or hexadecimal, octal or binary after a zero and a letter; fractions have
digits after the point, an exponent, or both. Single underscores may separate digits, and a decimal
number has no superfluous zero in front.

* `number` reads a number; `Error` says why a file is refused.
-/

namespace Criteria.Toml

/-- Why a file is refused. -/
inductive Error where
  | malformed
  /-- A decimal number has more digits than `Text.digitLimit`. -/
  | tooManyDigits (count : Nat)
  deriving DecidableEq, Repr

/-- What has to be there. -/
def demand {α : Type} : Option α → Except Error α
  | some x => .ok x
  | none => .error .malformed

/-- Digits of a base, a single underscore between any two of them; `started` says that a digit came
before. -/
def digits (p : Char → Bool) (started : Bool) : List Char → List Char × List Char
  | [] => ([], [])
  | c :: cs =>
    if p c then
      let (more, rest) := digits p true cs
      (c :: more, rest)
    else if started && c == '_' && cs.head?.any p then digits p false cs
    else ([], c :: cs)

/-- The number that digits denote in a base. -/
def ofBase (base : Nat) (cs : List Char) : Nat :=
  cs.foldl (fun n c =>
    let d :=
      if c.isDigit then c.toNat - 48
      else if c.isUpper then c.toNat - 55 else c.toNat - 87
    base * n + d) 0

/-- The base that a letter after a zero announces, and its digits. -/
def baseOf? : Char → Option (Nat × (Char → Bool))
  | 'x' => some (16, fun c => c.isDigit || ('a' ≤ c && c ≤ 'f') || ('A' ≤ c && c ≤ 'F'))
  | 'o' => some (8, fun c => '0' ≤ c && c ≤ '7')
  | 'b' => some (2, fun c => c == '0' || c == '1')
  | _ => none

/-- A whole number in another base. -/
def based? : List Char → Option (Nat × List Char)
  | '0' :: letter :: cs => do
    let (base, p) ← baseOf? letter
    match digits p false cs with
    | ([], _) => none
    | (ds, rest) => return (ofBase base ds, rest)
  | _ => none

/-- The digits in front of the point. -/
def wholePart? : List Char → Option (List Char × List Char)
  | '0' :: cs => some (['0'], cs)
  | cs =>
    match digits Char.isDigit false cs with
    | ([], _) => none
    | (ds, rest) => some (ds, rest)

/-- The digits after the point; without a digit there the point does not belong to the number. -/
def places (cs : List Char) : List Char × List Char :=
  match cs with
  | '.' :: tail =>
    match digits Char.isDigit false tail with
    | ([], _) => ([], cs)
    | r => r
  | _ => ([], cs)

/-- The exponent; without a digit in it its letter does not belong to the number. -/
def exponent? : List Char → Option (Int × List Char)
  | e :: tail =>
    if e == 'e' || e == 'E' then
      let (negative, tail) := Text.readSign tail
      match digits Char.isDigit false tail with
      | ([], _) => none
      | (ds, rest) => some (if negative then -(ofBase 10 ds : Int) else ofBase 10 ds, rest)
    else none
  | [] => none

/-- A decimal number. -/
def decimal (cs : List Char) : Except Error (Value × List Char) := do
  let (negative, body) := Text.readSign cs
  let (whole, rest) ← demand (wholePart? body)
  let (part, rest) := places rest
  match exponent? rest with
  | none =>
    if part.isEmpty then
      let n := ofBase 10 whole
      if Text.digitLimit < whole.length then .error (.tooManyDigits whole.length)
      else return (.int (if negative then -(n : Int) else n), rest)
    else
      return (.float (Text.decimalToBinary64 negative (ofBase 10 (whole ++ part)) (-part.length)),
        rest)
  | some (e, rest) =>
    return (.float (Text.decimalToBinary64 negative (ofBase 10 (whole ++ part)) (e - part.length)),
      rest)

/-- The words for the numbers without digits. -/
def wordNumber? (cs : List Char) : Option (Value × List Char) :=
  let (negative, body) := Text.readSign cs
  if body.take 3 == "inf".toList then some (.float (.infinity negative), body.drop 3)
  else if body.take 3 == "nan".toList then some (.float .nan, body.drop 3)
  else none

/-- A number at the start of a text, and what follows it. -/
def number (cs : List Char) : Except Error (Value × List Char) :=
  match based? cs, wordNumber? cs with
  | some (n, rest), _ => .ok (.int n, rest)
  | none, some r => .ok r
  | none, none => decimal cs

end Criteria.Toml
