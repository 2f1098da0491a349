/-!
# Double-precision numbers as words

A double is known by its sixty-four bits, and every operation works on the number those bits stand
for, in exact integer arithmetic; no machine float is involved.

* `Binary64.view` decodes a word into *not a number*, an infinity, or `± m · 2 ^ e`.
* `Binary64.ofRatio` rounds a ratio of two naturals to the nearest double, ties to the even
  significand; it is the only place where rounding happens.
* `Binary64.add` and `Binary64.mul` are the exact sum and product of two doubles, rounded once.
-/

namespace Criteria

/-- A double-precision number, known by its bits. -/
structure Binary64 where
  bits : UInt64
  deriving DecidableEq, Repr

namespace Binary64

/-- What a word stands for: `finite negative m e` is `± m · 2 ^ e`. -/
inductive View where
  | nan
  | infinite (negative : Bool)
  | finite (negative : Bool) (significand : Nat) (exponent : Int)
  deriving DecidableEq, Repr

/-- The number behind the bits. -/
def view (x : Binary64) : View :=
  let negative := decide (Nat.pow 2 63 ≤ x.bits.toNat)
  let exponent : Nat := x.bits.toNat / Nat.pow 2 52 % Nat.pow 2 11
  let fraction : Nat := x.bits.toNat % Nat.pow 2 52
  if exponent = 2047 then
    if fraction = 0 then .infinite negative else .nan
  else if exponent = 0 then .finite negative fraction (-1074)
  else .finite negative (Nat.pow 2 52 + fraction) ((exponent : Int) - 1075)

/-- The word with the given sign bit and the given sixty-three lower bits. -/
private def ofParts (negative : Bool) (magnitude : Nat) : Binary64 :=
  ⟨UInt64.ofNat (magnitude + if negative then Nat.pow 2 63 else 0)⟩

def zero (negative : Bool) : Binary64 := ofParts negative 0

def infinity (negative : Bool) : Binary64 := ofParts negative (2047 * Nat.pow 2 52)

def nan : Binary64 := ofParts false (2047 * Nat.pow 2 52 + Nat.pow 2 51)

/-- The quotient rounded to the nearest integer, a half to the even neighbour. -/
def roundHalfEven (num den : Nat) : Nat :=
  let q := num / den
  let twice := 2 * (num % den)
  if twice < den then q
  else if den < twice then q + 1
  else if q % 2 = 0 then q else q + 1

/-- The double nearest to `± num / den`, ties to the even significand; a ratio beyond the largest
double becomes an infinity. -/
def ofRatio (negative : Bool) (num den : Nat) : Binary64 :=
  if num = 0 then zero negative
  else
    let scaled (e : Int) : Nat × Nat := (num * Nat.pow 2 (-e).toNat, den * Nat.pow 2 e.toNat)
    let guess : Int := (Nat.log2 num : Int) - Nat.log2 den - 52
    let fits := scaled guess
    let e : Int := max (-1074) (if fits.1 < Nat.pow 2 52 * fits.2 then guess - 1 else guess)
    let target := scaled e
    let m := roundHalfEven target.1 target.2
    -- a carry out of the significand lands on the next exponent with a zero fraction by itself
    let field := if e = -1074 then m else (e + 1075).toNat * Nat.pow 2 52 + (m - Nat.pow 2 52)
    if 2047 * Nat.pow 2 52 ≤ field then infinity negative else ofParts negative field

/-- The double nearest to an integer. -/
def ofInt (n : Int) : Binary64 := ofRatio (decide (n < 0)) n.natAbs 1

/-- The exact value `± m · 2 ^ e` as a signed numerator over the denominator `2 ^ shift`. -/
private def numerator (negative : Bool) (m : Nat) (e : Int) (shift : Nat) : Int :=
  let scaled : Int := m * Nat.pow 2 (e + shift).toNat
  if negative then -scaled else scaled

/-- The sum, rounded once; opposite infinities have none. -/
def add (x y : Binary64) : Binary64 :=
  match x.view, y.view with
  | .nan, _ | _, .nan => nan
  | .infinite s, .infinite t => if s = t then infinity s else nan
  | .infinite s, .finite .. => infinity s
  | .finite .., .infinite t => infinity t
  | .finite s m e, .finite t n f =>
    let shift := (max 0 (max (-e) (-f))).toNat
    let sum := numerator s m e shift + numerator t n f shift
    if sum = 0 then zero (s && t)
    else ofRatio (decide (sum < 0)) sum.natAbs (Nat.pow 2 shift)

/-- The product, rounded once; zero times an infinity is no number. -/
def mul (x y : Binary64) : Binary64 :=
  match x.view, y.view with
  | .nan, _ | _, .nan => nan
  | .infinite s, .infinite t => infinity (s != t)
  | .infinite s, .finite t n _ | .finite t n _, .infinite s =>
    if n = 0 then nan else infinity (s != t)
  | .finite s m e, .finite t n f =>
    ofRatio (s != t) (m * n * Nat.pow 2 (e + f).toNat) (Nat.pow 2 (-(e + f)).toNat)

/-- The number with the other sign; *not a number* has none. -/
def neg (x : Binary64) : Binary64 :=
  match x.view with
  | .nan => x
  | .infinite s => infinity !s
  | .finite .. => ⟨UInt64.ofNat ((x.bits.toNat + Nat.pow 2 63) % Nat.pow 2 64)⟩

/-- Whether the number is zero of either sign. -/
def isZero (x : Binary64) : Bool :=
  match x.view with
  | .finite _ 0 _ => true
  | _ => false

/-- The integer that the double equals, if there is one. -/
def toInt? (x : Binary64) : Option Int :=
  match x.view with
  | .finite negative m e =>
    let magnitude : Option Nat :=
      if 0 ≤ e then some (m * Nat.pow 2 e.toNat)
      else if m % Nat.pow 2 (-e).toNat = 0 then some (m / Nat.pow 2 (-e).toNat) else none
    magnitude.map fun k => if negative then -(k : Int) else k
  | _ => none

end Binary64

end Criteria
