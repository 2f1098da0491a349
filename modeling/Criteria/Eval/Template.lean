import Criteria.Fault

/-!
# Templates

A template is a text with directives that take arguments. A directive is a percent sign, flags, a
width, a precision, a size and the letter of a conversion; two percent signs are none. A star in
place of a width or a precision takes an argument of its own.

`Template.check` says what is wrong with filling a template with one whole number.
-/

namespace Criteria.Template

/-- Templates of characters, and of bytes. -/
inductive Alphabet where
  | text
  | bytes
  deriving DecidableEq, Repr

/-- The sort of template in messages. -/
def Alphabet.word : Alphabet → String
  | text => "string"
  | bytes => "bytes"

/-- What is still to read, and whether the argument is still there. -/
structure Rest where
  chars : List Char
  unused : Bool

/-- Takes the argument. -/
def Rest.take (r : Rest) : Except Fault Rest :=
  if r.unused then .ok ⟨r.chars, false⟩ else .error .missingFormatArgument

/-- The largest width, and the largest precision. -/
def widthLimit : Nat := Nat.pow 2 63 - 1
def precisionLimit : Nat := Nat.pow 2 31 - 1

/-- Reads a number up to a limit, or a star. -/
def size (what : String) (limit : Nat) (r : Rest) : Except Fault Rest :=
  match r.chars with
  | '*' :: cs => Rest.take ⟨cs, r.unused⟩
  | cs =>
    if limit < Text.ofDigits 10 ((cs.takeWhile Char.isDigit).map fun c => c.toNat - 48) then
      .error (.invalidValue (what ++ " too big"))
    else .ok { r with chars := cs.dropWhile Char.isDigit }

/-- Reads a precision, if there is one. -/
def precision (what : String) (r : Rest) : Except Fault Rest :=
  match r.chars with
  | '.' :: cs => size what precisionLimit ⟨cs, r.unused⟩
  | _ => .ok r

/-- The fault of a letter that is no conversion. A text shows it if it is printable, bytes if it is
in ASCII. -/
def unknown (alphabet : Alphabet) (c : Char) (index : Nat) : Fault :=
  let n := Text.codePoint c
  match alphabet with
  | .text => .unknownConversion c (if 31 ≤ n && n ≤ 126 then c else '?') index
  | .bytes => if n < 128 then .unknownConversion c c index else .conversionOutOfRange

/-- Reads what stands after a percent sign in a template of the given length. -/
def directive (alphabet : Alphabet) (length : Nat) (r : Rest) : Except Fault Rest :=
  match r.chars with
  | '(' :: _ => .error .mappingNeeded
  | cs => do
    let body := cs.dropWhile fun c => "-+ #0".toList.contains c
    let r ← size "width" widthLimit { r with chars := body }
    let r ← precision (if alphabet = .text then "precision" else "prec") r
    let cs := match r.chars with
      | c :: cs => if "hlL".toList.contains c then cs else c :: cs
      | [] => []
    match cs with
    | [] => .error .incompleteFormat
    | c :: cs => do
      let r ← Rest.take ⟨cs, r.unused⟩
      if "diouxXeEfFgGcra".toList.contains c then return r
      else if c = 's' && alphabet = .text then return r
      else if (c = 's' || c = 'b') && alphabet = .bytes then throw .bytesLikeNeeded
      else throw (unknown alphabet c (length - cs.length - 1))

/-- What is wrong with the rest of a template of the given length. -/
def checkFrom (alphabet : Alphabet) (length : Nat) : (fuel : Nat) → Rest → Except Fault Unit
  | 0, _ => .ok ()
  | fuel + 1, r =>
    match r.chars with
    | [] => if r.unused then .error (.unusedArguments alphabet.word) else .ok ()
    | '%' :: '%' :: cs => checkFrom alphabet length fuel { r with chars := cs }
    | '%' :: cs => do
      let r ← directive alphabet length { r with chars := cs }
      checkFrom alphabet length fuel r
    | _ :: cs => checkFrom alphabet length fuel { r with chars := cs }

/-- What is wrong with filling a template with one whole number. -/
def check (alphabet : Alphabet) (chars : List Char) : Except Fault Unit :=
  checkFrom alphabet chars.length (chars.length + 1) ⟨chars, true⟩

end Criteria.Template
