/-!
# Blank characters

`isBlank` holds of the characters that Unicode counts as white space or as separators of lines and
fields; `strip` drops them from both ends of a text.
-/

namespace Criteria.Text

/-- White space: tabulation and line breaks, the four information separators, and every space and
separator of Unicode. -/
def isBlank (c : Char) : Bool :=
  let n := c.toNat
  (9 ≤ n && n ≤ 13) || (0x1c ≤ n && n ≤ 0x20) || n == 0x85 || n == 0xa0 || n == 0x1680 ||
    (0x2000 ≤ n && n ≤ 0x200a) || n == 0x2028 || n == 0x2029 || n == 0x202f || n == 0x205f ||
    n == 0x3000

/-- The six blanks of ASCII. -/
def isAsciiSpace (c : Char) : Bool := c == ' ' || (9 ≤ c.toNat && c.toNat ≤ 13)

/-- What remains of `cs` without the characters at either end that satisfy `p`. -/
def trimList (p : Char → Bool) (cs : List Char) : List Char :=
  ((cs.dropWhile p).reverse.dropWhile p).reverse

/-- The text without blanks at its ends. -/
def strip (s : String) : String := String.ofList (trimList isBlank s.toList)

end Criteria.Text
