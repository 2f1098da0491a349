import Criteria.Decimal.Binary64
import Criteria.Text.Blank

/-!
# Reading numerals

Whole and fractional numbers as people type them: blanks around, a sign, decimal digits of any
script, single underscores between digits.

* `readInteger` reads a whole number in a base, and says why a text is none; `digitLimit` bounds the
  digits in a base whose digits are not whole bits.
* `readFloat?` reads a double.
-/

namespace Criteria.Text

/-- The zeros of the decimal digits of Unicode 14; the other nine digits follow each of them. -/
def decimalZeros : List Nat := [
  0x30, 0x660, 0x6f0, 0x7c0, 0x966, 0x9e6, 0xa66, 0xae6, 0xb66, 0xbe6, 0xc66, 0xce6, 0xd66,
  0xde6, 0xe50, 0xed0, 0xf20, 0x1040, 0x1090, 0x17e0, 0x1810, 0x1946, 0x19d0, 0x1a80, 0x1a90,
  0x1b50, 0x1bb0, 0x1c40, 0x1c50, 0xa620, 0xa8d0, 0xa900, 0xa9d0, 0xa9f0, 0xaa50, 0xabf0,
  0xff10, 0x104a0, 0x10d30, 0x11066, 0x110f0, 0x11136, 0x111d0, 0x112f0, 0x11450, 0x114d0,
  0x11650, 0x116c0, 0x11730, 0x118e0, 0x11950, 0x11c50, 0x11d50, 0x11da0, 0x16a60, 0x16ac0,
  0x16b50, 0x1d7ce, 0x1d7d8, 0x1d7e2, 0x1d7ec, 0x1d7f6, 0x1e140, 0x1e2f0, 0x1e950, 0x1fbf0]

/-- The value of a decimal digit. -/
def digitValue? (c : Char) : Option Nat :=
  (decimalZeros.find? fun z => z ≤ c.toNat && c.toNat < z + 10).map (c.toNat - ·)

/-- The value of a digit in a base: a decimal digit, or from ten on a Latin letter. -/
def digitIn? (base : Nat) (c : Char) : Option Nat :=
  let letter : Option Nat :=
    if 'a' ≤ c && c ≤ 'z' then some (c.toNat - 87)
    else if 'A' ≤ c && c ≤ 'Z' then some (c.toNat - 55) else none
  ((digitValue? c).or letter).filter (· < base)

/-- The digits at the start of a text and what follows them. An underscore belongs to the digits if
one stands on either side of it; `started` says that the character before was a digit. -/
def digitRun (base : Nat) (started : Bool) : List Char → List Nat × List Char
  | [] => ([], [])
  | c :: cs =>
    match digitIn? base c with
    | some d =>
      let (ds, rest) := digitRun base true cs
      (d :: ds, rest)
    | none =>
      if started && c == '_' && (cs.head?.bind (digitIn? base)).isSome then digitRun base false cs
      else ([], c :: cs)

/-- The number that a list of digits denotes in a base. -/
def ofDigits (base : Nat) (ds : List Nat) : Nat := ds.foldl (fun n d => base * n + d) 0

/-- An optional sign: whether it is a minus, and the rest. -/
def readSign : List Char → Bool × List Char
  | '-' :: cs => (true, cs)
  | '+' :: cs => (false, cs)
  | cs => (false, cs)

/-- The blanks between which a numeral may stand: of ASCII the six spaces only, so no information
separators. -/
def isNumeralSpace (c : Char) : Bool := if c.toNat < 0x80 then isAsciiSpace c else isBlank c

/-- What stands between the blanks around a numeral. -/
def numeralBody (s : String) : List Char := trimList isNumeralSpace s.toList

/-- Why a text denotes no integer. -/
inductive IntegerFault where
  | malformed
  | tooLong (digits : Nat)
  deriving DecidableEq, Repr

/-- The most digits that an integer may be written with. -/
def digitLimit : Nat := 4300

/-- Moves over the mark of a base, a zero and a letter; the second part says whether it was there.
-/
def skipMark (base : Nat) (cs : List Char) : List Char × Bool :=
  match cs with
  | '0' :: letter :: rest =>
    let marks := match base with
      | 2 => ['b', 'B']
      | 8 => ['o', 'O']
      | 16 => ['x', 'X']
      | _ => []
    if marks.contains letter then (rest, true) else (cs, false)
  | _ => (cs, false)

/-- Whether a digit in a base is a whole number of bits. -/
def isWholeBits (base : Nat) : Bool := base == 2 || base == 8 || base == 16

/-- The integer that a text denotes in a base. Numbers in base 2, 8 or 16 may have any length. -/
def readInteger (base : Nat) (s : String) : Except IntegerFault Int :=
  let (negative, body) := readSign (numeralBody s)
  let (body, marked) := skipMark base body
  let (ds, rest) := digitRun base marked body
  if ds.isEmpty || rest.head? == some '_' then .error .malformed
  else if digitLimit < ds.length && !isWholeBits base then .error (.tooLong ds.length)
  else if !rest.isEmpty then .error .malformed
  else .ok (if negative then -(ofDigits base ds : Int) else ofDigits base ds)

/-- The double nearest to `± digits · 10 ^ exponent`. -/
def decimalToBinary64 (negative : Bool) (digits : Nat) (exponent : Int) : Binary64 :=
  let size : Int := (toString digits).length + exponent
  if digits = 0 || size < -330 then .zero negative
  else if 330 < size then .infinity negative
  else .ofRatio negative (digits * Nat.pow 10 exponent.toNat) (Nat.pow 10 (-exponent).toNat)

/-- The exponent part of a numeral: absent, or a letter, a sign and digits up to the end. -/
def readExponent? : List Char → Option Int
  | [] => some 0
  | e :: cs =>
    if e == 'e' || e == 'E' then
      let (negative, body) := readSign cs
      match digitRun 10 false body with
      | ([], _) => none
      | (ds, []) => some (if negative then -(ofDigits 10 ds : Int) else ofDigits 10 ds)
      | _ => none
    else none

/-- The digits, the number of them after the point, and the rest. -/
def readMantissa? (cs : List Char) : Option (List Nat × Nat × List Char) :=
  let (whole, rest) := digitRun 10 false cs
  let (part, rest) :=
    match rest with
    | '.' :: tail => digitRun 10 false tail
    | _ => ([], rest)
  if whole.isEmpty && part.isEmpty then none else some (whole ++ part, part.length, rest)

/-- The unsigned words for the numbers that have no digits. -/
def readWord? (negative : Bool) (cs : List Char) : Option Binary64 :=
  let word := String.ofList (cs.map Char.toLower)
  if word == "inf" || word == "infinity" then some (.infinity negative)
  else if word == "nan" then some .nan
  else none

/-- The double that a text denotes. -/
def readFloat? (s : String) : Option Binary64 :=
  let (negative, body) := readSign (numeralBody s)
  match readWord? negative body with
  | some x => some x
  | none => do
    let (digits, places, rest) ← readMantissa? body
    let exponent ← readExponent? rest
    return decimalToBinary64 negative (ofDigits 10 digits) (exponent - places)

end Criteria.Text
