import Criteria.Text.Half
import Criteria.Yaml.Cursor

/-!
# Scalars as they are written

A scalar is written plainly, between quotes, or as a block of lines. Each reader takes the position
where the scalar starts and answers its text and the position after it; for a scalar that breaks the
rules it says why.

* `plain` joins lines by single blanks and stops where a gap and an indicator follow.
* `quoted` reads both kinds of quotes.
* `block` reads literal and folded blocks of lines.
-/

namespace Criteria.Yaml.Scalar

/-! ## Plain -/

/-- The breaks and blanks of empty lines; `none` before a document boundary. -/
def emptyLines : (fuel : Nat) → Cursor → Option (List Char) × Cursor
  | 0, c => (some [], c)
  | fuel + 1, c =>
    if c.starts (· == ' ') then emptyLines fuel c.next
    else if c.starts isBreak then
      let (kept, c) := c.lineBreak
      if c.atBoundary then (none, c)
      else
        match emptyLines fuel c with
        | (some more, c) => (some (kept ++ more), c)
        | (none, c) => (none, c)
    else (some [], c)

/-- The text that a fold of lines stands for: one break alone is a blank, the first of several is
dropped. -/
def fold (first further : List Char) : List Char :=
  if first != ['\n'] then first ++ further
  else if further.isEmpty then [' '] else further

/-- What stands between two runs of a plain scalar: blanks, or a fold of lines; with it, whether a
line ended. -/
def plainGap (c : Cursor) : Option (List Char) × Bool × Cursor :=
  let (blanks, c) := c.takeWhile (· == ' ')
  if c.starts isBreak then
    let (kept, c) := c.lineBreak
    if c.atBoundary then (none, true, c)
    else
      match emptyLines c.rest.length c with
      | (some more, c) => (some (fold kept more), true, c)
      | (none, c) => (none, true, c)
  else (if blanks.isEmpty then none else some blanks, false, c)

/-- The number of characters before the next gap or indicator. -/
def runLength (inFlow : Bool) : List Char → Nat
  | [] => 0
  | c :: cs =>
    if isGap c then 0
    else if c == ':' &&
        (endsWord cs.head? || inFlow && cs.head?.any (",[]\x7b\x7d".toList.contains ·)) then 0
    else if inFlow && ",?[]\x7b\x7d".toList.contains c then 0
    else runLength inFlow cs + 1

/-- The runs of a plain scalar from here on, `gap` being what stands before them. The last part of
the answer says whether the scalar was followed by a line's end. -/
def plainRuns (inFlow : Bool) (indent : Nat) :
    (fuel : Nat) → (gap : List Char) → (ended : Bool) → Cursor → List Char × Bool × Cursor
  | 0, _, ended, c => ([], ended, c)
  | fuel + 1, gap, ended, c =>
    if c.starts (· == '#') then ([], ended, c)
    else
      match runLength inFlow c.rest with
      | 0 => ([], ended, c)
      | n =>
        let run := gap ++ c.rest.take n
        match plainGap (c.skip n) with
        | (none, ended, c) => (run, ended, c)
        | (some gap, ended, c) =>
          if c.starts (· == '#') || (!inFlow && c.column < indent) then (run, ended, c)
          else
            let (more, ended, c) := plainRuns inFlow indent fuel gap ended c
            (run ++ more, ended, c)

/-- A plain scalar: its text, whether a line's end follows it, and the position after it. -/
def plain (inFlow : Bool) (indent : Nat) (c : Cursor) : List Char × Bool × Cursor :=
  plainRuns inFlow indent c.rest.length [] false c

/-! ## Quoted -/

/-- The characters that one letter after a backslash stands for. -/
def escapes : List (Char × Char) := [
  ('0', '\x00'), ('a', '\x07'), ('b', '\x08'), ('t', '\t'), ('\t', '\t'), ('n', '\n'),
  ('v', '\x0b'), ('f', '\x0c'), ('r', '\r'), ('e', '\x1b'), (' ', ' '), ('"', '"'),
  ('\\', '\\'), ('/', '/'), ('N', '\u0085'), ('_', '\u00a0'), ('L', '\u2028'), ('P', '\u2029')]

def hexValue? (c : Char) : Option Nat :=
  if c.isDigit then some (c.toNat - 48)
  else if 'a' ≤ c && c ≤ 'f' then some (c.toNat - 87)
  else if 'A' ≤ c && c ≤ 'F' then some (c.toNat - 55)
  else none

/-- The number of hexadecimal digits after a letter. -/
def hexWidth? : Char → Option Nat
  | 'x' => some 2
  | 'u' => some 4
  | 'U' => some 8
  | _ => none

/-- The number that hexadecimal digits denote. -/
def ofHex? (cs : List Char) : Option Nat :=
  cs.foldlM (fun n c => (hexValue? c).map (16 * n + ·)) 0

/-- The empty lines inside quotes; no document boundary may be among them. -/
def quotedBreaks : (fuel : Nat) → Cursor → Except LexicalFault (List Char × Cursor)
  | 0, c => .ok ([], c)
  | fuel + 1, c =>
    if c.atBoundary then .error .malformed
    else
      let c := c.dropWhile fun x => x == ' ' || x == '\t'
      if c.starts isBreak then do
        let (kept, c) := c.lineBreak
        let (more, c) ← quotedBreaks fuel c
        return (kept ++ more, c)
      else .ok ([], c)

/-- The character with a code point. -/
def charOf (code : Nat) : Except LexicalFault Char :=
  if code < 0x110000 then .ok (Text.ofCodePoint code)
  else if code < Nat.pow 2 31 then .error .noSuchCharacter
  else .error .characterTooLarge

/-- The code that hexadecimal digits at the start of a text denote. -/
def hexCode? (width : Nat) (cs : List Char) : Option Nat :=
  if (cs.take width).length < width then none else ofHex? (cs.take width)

/-- What a backslash starts inside double quotes. -/
def escape (c : Cursor) : Except LexicalFault (List Char × Cursor) :=
  match c.peek? with
  | none => .error .malformed
  | some x =>
    match escapes.lookup x, hexWidth? x with
    | some y, _ => .ok ([y], c.next)
    | none, some width =>
      match hexCode? width c.next.rest with
      | none => .error .malformed
      | some code => do return ([← charOf code], c.next.skip width)
    | none, none =>
      if isBreak x then
        let (_, c) := c.lineBreak
        quotedBreaks c.rest.length c
      else .error .malformed

/-- The text up to the closing quote, and the position after it. -/
def quotedText (double : Bool) : (fuel : Nat) → Cursor → Except LexicalFault (List Char × Cursor)
  | 0, _ => .error .malformed
  | fuel + 1, c => do
    let some x := c.peek? | .error .malformed
    let keep (run : List Char) (c : Cursor) : Except LexicalFault (List Char × Cursor) := do
      let (more, c) ← quotedText double fuel c
      return (run ++ more, c)
    if x == (if double then '"' else '\x27') then
      if !double && c.peekAt? 1 == some '\x27' then keep ['\x27'] (c.skip 2)
      else return ([], c.next)
    else if double && x == '\\' then
      let (run, c) ← escape c.next
      keep run c
    else if isGap x then
      let (blanks, c) := c.takeWhile fun y => y == ' ' || y == '\t'
      match c.peek? with
      | none => .error .malformed
      | some y =>
        if isBreak y then
          let (kept, c) := c.lineBreak
          let (more, c) ← quotedBreaks c.rest.length c
          keep (fold kept more) c
        else keep blanks c
    else keep [x] c.next

/-- A scalar between quotes. -/
def quoted (c : Cursor) : Except LexicalFault (List Char × Cursor) :=
  quotedText (c.starts (· == '"')) c.rest.length c.next

/-! ## Blocks -/

/-- What becomes of the line breaks at the end of a block. -/
inductive Chomping where
  | strip
  | clip
  | keep
  deriving DecidableEq, Repr

/-- The header of a block: how it ends and, if given, its indentation. -/
def header (c : Cursor) : Option (Chomping × Option Nat × Cursor) :=
  let sign (c : Cursor) : Chomping × Cursor :=
    match c.peek? with
    | some '+' => (.keep, c.next)
    | some '-' => (.strip, c.next)
    | _ => (.clip, c)
  let digit (c : Cursor) : Option (Option Nat × Cursor) :=
    match c.peek? with
    | some x =>
      if x.isDigit then if x == '0' then none else some (some (x.toNat - 48), c.next)
      else some (none, c)
    | none => some (none, c)
  let checked (r : Chomping × Option Nat × Cursor) : Option (Chomping × Option Nat × Cursor) :=
    match r.2.2.peek? with
    | some x => if x == ' ' || isBreak x then some r else none
    | none => some r
  match sign c with
  | (.clip, _) => do
    let (width, c) ← digit c
    if width.isNone then checked (.clip, none, c)
    else
      let (chomping, c) := sign c
      checked (chomping, width, c)
  | (chomping, c) => do
    let (width, c) ← digit c
    checked (chomping, width, c)

/-- The rest of a header line: blanks, a comment, a break. -/
def headerLine (c : Cursor) : Option Cursor :=
  let c := c.dropWhile (· == ' ')
  let c := if c.starts (· == '#') then c.dropWhile (!isBreak ·) else c
  match c.peek? with
  | some x => if isBreak x then some c.lineBreak.2 else none
  | none => some c

/-- Leading empty lines, and the deepest column met in them. -/
def leadingLines : (fuel : Nat) → (deepest : Nat) → Cursor → List Char × Nat × Cursor
  | 0, deepest, c => ([], deepest, c)
  | fuel + 1, deepest, c =>
    if c.starts isBreak then
      let (kept, c) := c.lineBreak
      let (more, deepest, c) := leadingLines fuel deepest c
      (kept ++ more, deepest, c)
    else if c.starts (· == ' ') then leadingLines fuel (max deepest c.next.column) c.next
    else ([], deepest, c)

/-- Moves over blanks up to a column. -/
def indentTo (column : Nat) : (fuel : Nat) → Cursor → Cursor
  | 0, c => c
  | fuel + 1, c =>
    if c.column < column && c.starts (· == ' ') then indentTo column fuel c.next else c

/-- Empty lines inside a block. -/
def blockBreaks (indent : Nat) : (fuel : Nat) → Cursor → List Char × Cursor
  | 0, c => ([], c)
  | fuel + 1, c =>
    let c := indentTo indent indent c
    if c.starts isBreak then
      let (kept, c) := c.lineBreak
      let (more, c) := blockBreaks indent fuel c
      (kept ++ more, c)
    else ([], c)

/-- The lines of a block; `breaks` are the empty lines before the next one. -/
def blockLines (folded : Bool) (indent : Nat) (chomping : Chomping) :
    (fuel : Nat) → (breaks : List Char) → (last : List Char) → Cursor → List Char × Cursor
  | 0, _, _, c => ([], c)
  | fuel + 1, breaks, last, c =>
    let finish : List Char :=
      match chomping with
      | .strip => []
      | .clip => last
      | .keep => last ++ breaks
    if c.column == indent && c.peek?.isSome then
      let text? (c : Cursor) : Bool := !c.starts fun x => x == ' ' || x == '\t'
      let (text, after) := c.takeWhile (!isBreak ·)
      let (kept, after) := after.lineBreak
      let (further, after) := blockBreaks indent after.rest.length after
      let joint : List Char :=
        if after.column == indent && after.peek?.isSome then
          if folded && kept == ['\n'] && text? c && text? after then
            if further.isEmpty then [' '] else []
          else kept
        else []
      let (more, c) := blockLines folded indent chomping fuel further kept after
      (breaks ++ text ++ joint ++ more, c)
    else (finish, c)

/-- A block of lines, below the given indentation. -/
def block (indent : Int) (c : Cursor) : Option (List Char × Cursor) := do
  let folded := c.starts (· == '>')
  let (chomping, width, c) ← header c.next
  let c ← headerLine c
  let least := (max 1 (indent + 1)).toNat
  match width with
  | some width =>
    let indent := least + width - 1
    let (breaks, c) := blockBreaks indent c.rest.length c
    return blockLines folded indent chomping (c.rest.length + 1) breaks [] c
  | none =>
    let (breaks, deepest, c) := leadingLines c.rest.length 0 c
    return blockLines folded (max least deepest) chomping (c.rest.length + 1) breaks [] c

end Criteria.Yaml.Scalar
