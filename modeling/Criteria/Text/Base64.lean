/-!
# Bytes as letters

Three bytes are written as four letters, each of which stands for six bits. `Base64.decode?` passes
over characters that are no such letters and stops where the equals signs complete a group of four;
a group that stays incomplete is refused.
-/

namespace Criteria.Text.Base64

/-- The six bits that a letter stands for. -/
def bits? (c : Char) : Option Nat :=
  if 'A' ≤ c && c ≤ 'Z' then some (c.toNat - 65)
  else if 'a' ≤ c && c ≤ 'z' then some (c.toNat - 71)
  else if c.isDigit then some (c.toNat + 4)
  else if c == '+' then some 62
  else if c == '/' then some 63
  else none

/-- The place in a group of four: the number of letters read, and the bits of the last one that are
still to be written. -/
structure Place where
  count : Nat
  left : Nat
  deriving Repr

/-- The place after a letter, and the byte that it completes. -/
def Place.step (p : Place) (bits : Nat) : Option UInt8 × Place :=
  match p.count with
  | 0 => (none, ⟨1, bits⟩)
  | 1 => (some (UInt8.ofNat (p.left * 4 + bits / 16)), ⟨2, bits % 16⟩)
  | 2 => (some (UInt8.ofNat (p.left * 16 + bits / 4)), ⟨3, bits % 4⟩)
  | _ => (some (UInt8.ofNat (p.left * 64 + bits)), ⟨0, 0⟩)

/-- The bytes from a place on; `signs` counts the equals signs since the last letter. -/
def decodeFrom (p : Place) (signs : Nat) : List Char → Option (List UInt8)
  | [] => if p.count = 0 then some [] else none
  | '=' :: cs =>
    if 2 ≤ p.count && 4 ≤ p.count + signs + 1 then some []
    else decodeFrom p (if 2 ≤ p.count then signs + 1 else signs) cs
  | c :: cs =>
    match bits? c with
    | none => decodeFrom p signs cs
    | some bits =>
      let (byte, next) := p.step bits
      (decodeFrom next 0 cs).map (byte.toList ++ ·)

/-- The bytes that a text stands for. -/
def decode? (cs : List Char) : Option (List UInt8) := decodeFrom ⟨0, 0⟩ 0 cs

end Criteria.Text.Base64
