/-!
# Texts in settings files

Texts stand between quotation marks, with escapes, or between apostrophes, without; three marks
enclose a text of several lines. Each reader takes what follows the opening mark and answers the
text and what follows the closing one.
-/

namespace Criteria.Toml

/-- Blanks within a line. -/
def isBlank (c : Char) : Bool := c == ' ' || c == '\t'

def skipBlanks (cs : List Char) : List Char := cs.dropWhile isBlank

/-- Blanks and line breaks. -/
def isGap (c : Char) : Bool := isBlank c || c == '\n'

/-- Control characters other than the tabulator. -/
def isControl (c : Char) : Bool := (c.toNat < 0x20 && c != '\t') || c.toNat == 0x7f

/-- The character that a letter after a backslash stands for. -/
def escapes : List (Char × Char) :=
  [('b', '\x08'), ('t', '\t'), ('n', '\n'), ('f', '\x0c'), ('r', '\r'), ('"', '"'), ('\\', '\\')]

def hexValue? (c : Char) : Option Nat :=
  if c.isDigit then some (c.toNat - 48)
  else if 'a' ≤ c && c ≤ 'f' then some (c.toNat - 87)
  else if 'A' ≤ c && c ≤ 'F' then some (c.toNat - 55)
  else none

/-- The character with a number in hexadecimal; it has to be a scalar value of Unicode. -/
def hexChar? (digits : List Char) : Option Char := do
  let n ← digits.foldlM (fun n c => (hexValue? c).map (16 * n + ·)) 0
  if h : n.isValidChar then some ⟨n.toUInt32, by
    rcases h with h | h <;> simp [UInt32.isValidChar, Nat.isValidChar] <;> omega⟩ else none

/-- What a backslash starts. Over several lines it may end a line, and then hides the gap after
it. -/
def escape (multiline : Bool) : List Char → Option (List Char × List Char)
  | 'u' :: cs => do
    if (cs.take 4).length < 4 then none
    return ([← hexChar? (cs.take 4)], cs.drop 4)
  | 'U' :: cs => do
    if (cs.take 8).length < 8 then none
    return ([← hexChar? (cs.take 8)], cs.drop 8)
  | c :: cs =>
    if multiline && isGap c then
      match skipBlanks (c :: cs) with
      | '\n' :: rest => some ([], rest.dropWhile isGap)
      | [] => some ([], [])
      | _ => none
    else (escapes.lookup c).map fun x => ([x], cs)
  | [] => none

/-- A text with escapes. -/
def basicText (multiline : Bool) : (fuel : Nat) → List Char → Option (List Char × List Char)
  | 0, _ => none
  | fuel + 1, cs =>
    let keep (run : List Char) (rest : List Char) : Option (List Char × List Char) := do
      let (more, rest) ← basicText multiline fuel rest
      return (run ++ more, rest)
    match cs with
    | [] => none
    | '"' :: rest =>
      if !multiline then some ([], rest)
      else if rest.take 2 == ['"', '"'] then some ([], rest.drop 2)
      else keep ['"'] rest
    | '\\' :: rest =>
      match escape multiline rest with
      | some (run, rest) => keep run rest
      | none => none
    | c :: rest => if isControl c && !(multiline && c == '\n') then none else keep [c] rest

/-- A text without escapes, on one line. -/
def literalText (cs : List Char) : Option (List Char × List Char) :=
  let text := cs.takeWhile (· != '\x27')
  match cs.dropWhile (· != '\x27') with
  | _ :: rest => if text.any isControl then none else some (text, rest)
  | [] => none

/-- A text without escapes, over several lines. -/
def literalLines : List Char → Option (List Char × List Char)
  | [] => none
  | '\x27' :: '\x27' :: '\x27' :: rest => some ([], rest)
  | c :: rest =>
    if isControl c && c != '\n' then none
    else (literalLines rest).map fun (more, rest) => (c :: more, rest)

/-- One or two more marks right after the closing ones belong to the text. -/
def furtherMarks (mark : Char) (text : List Char) : List Char → List Char × List Char
  | a :: b :: rest =>
    if a == mark && b == mark then (text ++ [mark, mark], rest)
    else if a == mark then (text ++ [mark], b :: rest) else (text, a :: b :: rest)
  | [a] => if a == mark then (text ++ [mark], []) else (text, [a])
  | [] => (text, [])

/-- A text of several lines, after its three marks; a line break right there does not count. -/
def lines (mark : Char) (cs : List Char) : Option (List Char × List Char) := do
  let cs := match cs with
    | '\n' :: rest => rest
    | _ => cs
  let (text, rest) ←
    if mark == '"' then basicText true (cs.length + 1) cs else literalLines cs
  return furtherMarks mark text rest

/-- A text, from its opening mark on. -/
def text : List Char → Option (List Char × List Char)
  | '"' :: '"' :: '"' :: rest => lines '"' rest
  | '\x27' :: '\x27' :: '\x27' :: rest => lines '\x27' rest
  | '"' :: rest => basicText false (rest.length + 1) rest
  | '\x27' :: rest => literalText rest
  | _ => none

end Criteria.Toml
