/-!
# Reading position in a document

A `Cursor` is what is left of a text and where that is: the number of characters before it, the
line and the column. Lines end at line feeds and the three further breaks of Unicode; carriage
returns count as line feeds from the start.

* `Cursor.next` moves over one character, `Cursor.takeWhile` over a run.
* `Cursor.lineBreak` moves over one break and says how the break is kept.
* `LexicalFault` says why a text cannot be read on.
-/

namespace Criteria.Yaml

/-- The rest of a text and its place. -/
structure Cursor where
  rest : List Char
  index : Nat
  line : Nat
  column : Nat
  deriving Repr

/-- Why a text cannot be cut into tokens. -/
inductive LexicalFault where
  | malformed
  /-- An escape names a code point beyond the last one. -/
  | noSuchCharacter
  /-- An escape names a number that is no code point by its size alone. -/
  | characterTooLarge
  deriving DecidableEq, Repr

/-- Whether a line ends here. -/
def isBreak (c : Char) : Bool :=
  c == '\n' || c == '\u0085' || c == '\u2028' || c == '\u2029'

/-- Whether a word ends here. -/
def isGap (c : Char) : Bool := c == ' ' || c == '\t' || isBreak c

/-- Whether an optional next character is a gap; the end of the text is one. -/
def endsWord : Option Char → Bool
  | none => true
  | some c => isGap c

namespace Cursor

/-- Every carriage return, alone or before a line feed, as a line feed. -/
def lineFeeds : List Char → List Char
  | '\r' :: '\n' :: cs | '\r' :: cs => '\n' :: lineFeeds cs
  | c :: cs => c :: lineFeeds cs
  | [] => []

/-- The start of a text. -/
def ofText (text : String) : Cursor := ⟨lineFeeds text.toList, 0, 0, 0⟩

def peek? (c : Cursor) : Option Char := c.rest.head?

/-- The character at a distance. -/
def peekAt? (c : Cursor) (n : Nat) : Option Char := c.rest[n]?

/-- Whether the text goes on with a character that satisfies `p`. -/
def starts (c : Cursor) (p : Char → Bool) : Bool := c.peek?.any p

/-- The position after one more character. A byte order mark takes no column. -/
def next (c : Cursor) : Cursor :=
  match c.rest with
  | [] => c
  | x :: rest =>
    if isBreak x then ⟨rest, c.index + 1, c.line + 1, 0⟩
    else ⟨rest, c.index + 1, c.line, if x == '\ufeff' then c.column else c.column + 1⟩

def skip (c : Cursor) : Nat → Cursor
  | 0 => c
  | n + 1 => c.next.skip n

/-- The run of characters that satisfy `p`, and the position after it. -/
def takeWhile (c : Cursor) (p : Char → Bool) : List Char × Cursor :=
  let run := c.rest.takeWhile p
  (run, c.skip run.length)

/-- The position after the characters that satisfy `p`. -/
def dropWhile (c : Cursor) (p : Char → Bool) : Cursor := (c.takeWhile p).2

/-- Moves over a line break: the separators of lines and paragraphs are kept, other breaks become
line feeds. -/
def lineBreak (c : Cursor) : List Char × Cursor :=
  match c.rest with
  | '\n' :: _ | '\u0085' :: _ => (['\n'], c.next)
  | '\u2028' :: _ => (['\u2028'], c.next)
  | '\u2029' :: _ => (['\u2029'], c.next)
  | _ => ([], c)

/-- Whether a line of the form `---` or `...` starts here. -/
def atMarker (c : Cursor) (sign : Char) : Bool :=
  c.rest.take 3 == [sign, sign, sign] && endsWord (c.peekAt? 3)

/-- Whether a document starts or ends here. -/
def atBoundary (c : Cursor) : Bool := c.atMarker '-' || c.atMarker '.'

end Cursor

end Criteria.Yaml
