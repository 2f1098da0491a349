/-!
# Halves of characters

Where texts are made of sixteen-bit units, a character beyond `U+FFFF` is written as two halves, and
a text from there may hold a half without its partner. The 2048 halves are kept in texts as the code
points from `U+EF800` to `U+EFFFF`, which stand for nothing else.

* `codePoint` is the number of a character or half, by which texts are ordered and written.
* `hasBytes` says whether a character or half can be written in bytes.
-/

namespace Criteria.Text

/-- Whether a number is that of a half. -/
def isHalf (code : Nat) : Bool := 0xd800 ≤ code && code < 0xe000

/-- The character or half with a number. -/
def ofCodePoint (code : Nat) : Char :=
  Char.ofNat (if isHalf code then code - 0xd800 + 0xef800 else code)

/-- The number of a character or half. -/
def codePoint (c : Char) : Nat :=
  if 0xef800 ≤ c.toNat && c.toNat < 0xf0000 then c.toNat - 0xef800 + 0xd800 else c.toNat

/-- Whether there are bytes for a character or half. The halves from `U+DC80` to `U+DCFF` stand for
the bytes from 128 to 255; the others have none. -/
def hasBytes (c : Char) : Bool :=
  !isHalf (codePoint c) || (0xdc80 ≤ codePoint c && codePoint c < 0xdd00)

end Criteria.Text
