import Criteria.Text.Half
import Criteria.Text.PrintableTable

/-!
# Quoted literals

A text or a run of bytes is written between quotes, with a backslash before whatever could not stand
there by itself. The quote is a single one unless the content holds a single quote and no double
one.

* `quote` writes a text; a character without a printed form becomes a `\x`, `\u` or `\U` escape.
* `quoteBytes` writes bytes after the letter `b`; a byte outside printable ASCII becomes `\x`.
-/

namespace Criteria.Text

/-- Whether the character has a printed form of its own. -/
def isPrintable (c : Char) : Bool :=
  !unprintable.any fun r => r.1 ≤ codePoint c && codePoint c ≤ r.2

/-- The last `width` hexadecimal digits of a number, in lower case. -/
def hexDigits (width n : Nat) : List Char :=
  match width with
  | 0 => []
  | width + 1 => hexDigits width (n / 16) ++ [Nat.digitChar (n % 16)]

/-- The quote that encloses the content. -/
def quoteFor (content : List Char) : Char :=
  if content.contains '\x27' && !content.contains '\x22' then '\x22' else '\x27'

/-- How one character is written between the given quotes. -/
def escapeChar (quote c : Char) : List Char :=
  if c == quote || c == '\\' then ['\\', c]
  else if c == '\n' then ['\\', 'n']
  else if c == '\r' then ['\\', 'r']
  else if c == '\t' then ['\\', 't']
  else if isPrintable c then [c]
  else if c.toNat < 0x100 then ['\\', 'x'] ++ hexDigits 2 c.toNat
  else if codePoint c < 0x10000 then ['\\', 'u'] ++ hexDigits 4 (codePoint c)
  else ['\\', 'U'] ++ hexDigits 8 c.toNat

/-- The literal that denotes a text. -/
def quote (s : String) : String :=
  let q := quoteFor s.toList
  String.ofList (q :: s.toList.flatMap (escapeChar q) ++ [q])

/-- How one byte is written: a byte of ASCII as its character would be, another one by its value. -/
def escapeByte (quote : Char) (b : UInt8) : List Char :=
  let c := Char.ofNat b.toNat
  if b.toNat < 0x7f then escapeChar quote c else ['\\', 'x'] ++ hexDigits 2 b.toNat

/-- The literal that denotes a run of bytes. -/
def quoteBytes (bytes : List UInt8) : String :=
  let q := quoteFor (bytes.map fun b => Char.ofNat b.toNat)
  String.ofList ('b' :: q :: bytes.flatMap (escapeByte q) ++ [q])

end Criteria.Text
