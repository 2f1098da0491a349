import Criteria.Decimal.Binary64

/-!
# Numbers of both kinds, compared exactly

Integers of any size and doubles share one order. A comparison never rounds: both sides are brought
to one power of two and compared as integers, so `2 ^ 53 + 1` and the double `2 ^ 53` differ.
-/

namespace Criteria

/-- An integer or a double. -/
inductive Number where
  | int (n : Int)
  | float (x : Binary64)
  deriving DecidableEq, Repr

namespace Number

/-- A number placed on the extended line: below, on, or above the dyadic rationals. -/
inductive Place where
  | below
  | dyadic (numerator : Int) (exponent : Int)
  | above
  deriving DecidableEq, Repr

/-- Where the number lies; *not a number* lies nowhere. -/
def place? : Number → Option Place
  | .int n => some (.dyadic n 0)
  | .float x =>
    match x.view with
    | .nan => none
    | .infinite negative => some (if negative then .below else .above)
    | .finite negative m e => some (.dyadic (if negative then -(m : Int) else m) e)

/-- The order of two places. -/
def Place.compare : Place → Place → Ordering
  | .below, .below | .above, .above => .eq
  | .below, _ | _, .above => .lt
  | .above, _ | _, .below => .gt
  | .dyadic m e, .dyadic n f =>
    let low := min e f
    Ord.compare (m * Nat.pow 2 (e - low).toNat) (n * Nat.pow 2 (f - low).toNat)

/-- The order of two numbers, absent if one of them is not a number. -/
def compare? (a b : Number) : Option Ordering :=
  match a.place?, b.place? with
  | some p, some q => some (p.compare q)
  | _, _ => none

/-- Numeric equality; *not a number* equals nothing. -/
def eq (a b : Number) : Bool := a.compare? b == some .eq

theorem compare?_int (m n : Int) : (int m).compare? (.int n) = some (Ord.compare m n) := by
  simp [compare?, place?, Place.compare]

theorem eq_int_self (n : Int) : (int n).eq (.int n) = true := by
  rw [eq, compare?_int, Std.ReflOrd.compare_self]
  rfl

/-- Whether the number is zero. -/
def isZero : Number → Bool
  | .int n => n == 0
  | .float x => x.isZero

/-- Whether the number is an even integer. -/
def isEven : Number → Bool
  | .int n => n % 2 == 0
  | .float x => x.toInt?.any (· % 2 == 0)

/-- The double nearest to the number. -/
def toBinary64 : Number → Binary64
  | .int n => .ofInt n
  | .float x => x

end Number

end Criteria
