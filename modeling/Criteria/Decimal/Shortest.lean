import Criteria.Decimal.Binary64

/-!
# The shortest decimal that reads back

`Binary64.shortest?` finds, for a finite nonzero double, the fewest significant digits that name it:
for one digit, two digits, and so on it looks at the two points of that decimal grid next to the
value and takes the first grid with a point that rounds to the double; of two such points the nearer
one, an exact tie going to the even digit. `Binary64.text` lays the digits out.
-/

namespace Criteria.Binary64

/-- A positive decimal `digits · 10 ^ exponent`. -/
structure Decimal where
  digits : Nat
  exponent : Int
  deriving DecidableEq, Repr

/-- Numerator and denominator of `m · 2 ^ e`. -/
private def ratio (m : Nat) (e : Int) : Nat × Nat := (m * Nat.pow 2 e.toNat, Nat.pow 2 (-e).toNat)

/-- Numerator and denominator of `d · 10 ^ k`. -/
private def decimalRatio (d : Nat) (k : Int) : Nat × Nat := (d * Nat.pow 10 k.toNat, Nat.pow 10 (-k).toNat)

private def ratioLt (a b : Nat × Nat) : Bool := a.1 * b.2 < b.1 * a.2

/-- Whether the decimal lies in the interval of reals that round to `m · 2 ^ e`; the ends belong to
it exactly if `m` is even. -/
def readsBack (m : Nat) (e : Int) (d : Decimal) : Bool :=
  let point := decimalRatio d.digits d.exponent
  let low :=
    if m = Nat.pow 2 52 && -1074 < e then ratio (4 * m - 1) (e - 2) else ratio (2 * m - 1) (e - 1)
  let high := ratio (2 * m + 1) (e - 1)
  if m % 2 = 0 then !ratioLt point low && !ratioLt high point
  else ratioLt low point && ratioLt point high

/-- The exponent of the leading decimal digit of the positive ratio `num / den`, searched upwards
from `k`. -/
private def leadingExponent (num den : Nat) : Nat → Int → Int
  | 0, k => k
  | fuel + 1, k =>
    let next := decimalRatio 1 (k + 1)
    if ratioLt (num, den) next then k else leadingExponent num den fuel (k + 1)

/-- The better of the two grid points around the value, if any of them reads back. -/
private def onGrid? (m : Nat) (e step : Int) : Option Decimal :=
  let value := ratio m e
  let num := value.1 * Nat.pow 10 (-step).toNat
  let den := value.2 * Nat.pow 10 step.toNat
  let below : Decimal := ⟨num / den, step⟩
  let above : Decimal := ⟨num / den + 1, step⟩
  match readsBack m e below && below.digits != 0, readsBack m e above with
  | true, true => some ⟨roundHalfEven num den, step⟩
  | true, false => some below
  | false, true => some above
  | false, false => none

/-- The first grid with a point that reads back, from few digits to many. -/
private def firstGrid (m : Nat) (e lead : Int) : Nat → Nat → Decimal
  | 0, _ => ⟨0, 0⟩
  | fuel + 1, n =>
    match onGrid? m e (lead - n) with
    | some d => d
    | none => firstGrid m e lead fuel (n + 1)

/-- The fewest digits that name `m · 2 ^ e`, for a positive `m`. -/
def shortest (m : Nat) (e : Int) : Decimal :=
  let value := ratio m e
  let guess : Int := ((Nat.log2 value.1 : Int) - Nat.log2 value.2) * 30103 / 100000 - 2
  firstGrid m e (leadingExponent value.1 value.2 6 guess) 17 0

/-- How the digits of a double are laid out as text. -/
structure Layout where
  /-- The decimal exponents written positionally: from `low`, below `high`. -/
  low : Int
  high : Int
  /-- The least number of digits in a written exponent. -/
  exponentDigits : Nat

/-- Numbers from `1e-4` to below `1e16` are positional, others have an exponent of two digits or
more. -/
def Layout.standard : Layout := ⟨-4, 16, 2⟩

/-- The digits of a decimal and the exponent of the first one, without trailing zeros. -/
private def scientific (d : Decimal) : List Char × Int :=
  let all := (toString d.digits).toList
  let kept := (all.reverse.dropWhile (· == '0')).reverse
  (kept, d.exponent + all.length - 1)

private def padLeft (width : Nat) (cs : List Char) : List Char :=
  List.replicate (width - cs.length) '0' ++ cs

/-- The text of a positive decimal. -/
def Layout.render (layout : Layout) (d : Decimal) : String :=
  let (digits, exponent) := scientific d
  if layout.low ≤ exponent && exponent < layout.high then
    if exponent < 0 then
      String.ofList (['0', '.'] ++ List.replicate (-exponent - 1).toNat '0' ++ digits)
    else
      let whole := digits.take (exponent.toNat + 1)
      let part := digits.drop (exponent.toNat + 1)
      let whole := whole ++ List.replicate (exponent.toNat + 1 - whole.length) '0'
      String.ofList (whole ++ ['.'] ++ (if part.isEmpty then ['0'] else part))
  else
    let power := padLeft layout.exponentDigits (toString exponent.natAbs).toList
    let mantissa := digits.take 1 ++ (if digits.length ≤ 1 then [] else '.' :: digits.drop 1)
    String.ofList (mantissa ++ ['e', if exponent < 0 then '-' else '+'] ++ power)

/-- The shortest text that reads back as the same double. -/
def text (x : Binary64) : String :=
  match x.view with
  | .nan => "nan"
  | .infinite negative => if negative then "-inf" else "inf"
  | .finite negative m e =>
    let body := if m = 0 then "0.0" else Layout.standard.render (shortest m e)
    if negative then "-" ++ body else body

end Criteria.Binary64
