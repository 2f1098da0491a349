import Criteria.Yaml.Scalar

/-!
# Tokens of a document

A document is cut into indicators, names and scalars, and its indentation becomes tokens of its own:
a collection in block style starts where the first of its items is indented deeper than what
surrounds it, and ends where a line is indented less.

A scalar turns out to be a key only when a colon follows it. `Lexer.pending` remembers, for each
level of nesting in brackets, the place where a key might have started; `Lexer.valueIndicator` goes
back and puts the key's tokens there.

* `Token.ofText` is the list of tokens; where the text cannot be read on, it ends with
  `Token.broken`. Tokens that might still have become keys when that was found out are not in it.
-/

namespace Criteria.Yaml

/-- What a line in front of a document says. -/
inductive Directive where
  /-- The version of the notation. -/
  | version (major : Nat)
  /-- What a handle of tags stands for. -/
  | handle (name address : String)
  | other
  deriving DecidableEq, Repr

/-- A token. -/
inductive Token where
  | directive (d : Directive)
  | documentStart
  | documentEnd
  | streamEnd
  | blockSequenceStart
  | blockMappingStart
  | blockEnd
  | flowSequenceStart
  | flowSequenceEnd
  | flowMappingStart
  | flowMappingEnd
  | flowEntry
  | blockEntry
  | key
  | value
  | alias (name : String)
  | anchor (name : String)
  | tag (handle suffix : String)
  | scalar (text : String) (plain : Bool)
  /-- The text cannot be read on from here. -/
  | broken (why : LexicalFault)
  deriving DecidableEq, Repr

/-- The place where a key may have started: its number among the tokens, and whether it has to be a
key. -/
structure PendingKey where
  token : Nat
  required : Bool
  index : Nat
  line : Nat
  column : Nat
  deriving Repr

/-- The state of reading: the position, the depth of brackets, the indentations of the open block
collections, whether a key may start here, and the tokens so far. -/
structure Lexer where
  cursor : Cursor
  depth : Nat
  indent : Int
  outer : List Int
  keyAllowed : Bool
  pending : List (Nat × PendingKey)
  tokens : Array Token
  deriving Repr

namespace Lexer

def ofText (text : String) : Lexer := ⟨.ofText text, 0, -1, [], true, [], #[]⟩

def inFlow (s : Lexer) : Bool := s.depth != 0

def column (s : Lexer) : Int := s.cursor.column

def push (s : Lexer) (t : Token) : Lexer := { s with tokens := s.tokens.push t }

/-- Moves over an indicator of `n` characters, which is a token. -/
def indicator (s : Lexer) (t : Token) (n : Nat) : Lexer :=
  { s with cursor := s.cursor.skip n }.push t

/-! ## Blanks and indentation -/

/-- Moves over blanks, comments and line breaks. Outside brackets a key may start on a new line. -/
def skipBlanks : (fuel : Nat) → Lexer → Lexer
  | 0, s => s
  | fuel + 1, s =>
    let c := s.cursor.dropWhile (· == ' ')
    let c := if c.starts (· == '#') then c.dropWhile (!isBreak ·) else c
    if c.starts isBreak then
      skipBlanks fuel { s with cursor := c.lineBreak.2, keyAllowed := s.keyAllowed || !s.inFlow }
    else { s with cursor := c }

/-- The byte order mark at the start of a text is no part of it. -/
def skipMark (s : Lexer) : Lexer :=
  if s.cursor.index == 0 && s.cursor.starts (· == '\ufeff') then { s with cursor := s.cursor.next }
  else s

/-- Ends the block collections that are indented deeper than a column. -/
def unwind (s : Lexer) (column : Int) : Lexer :=
  if s.inFlow then s
  else
    let (closed, kept) := (s.indent :: s.outer).span fun i => column < i
    let tokens := closed.foldl (fun ts _ => ts.push Token.blockEnd) s.tokens
    { s with indent := kept.headD (-1), outer := kept.drop 1, tokens }

/-- Starts a block collection at a column unless one is open there. -/
def openBlock (s : Lexer) (column : Int) (place : Nat) (t : Token) : Lexer :=
  if s.indent < column then
    { s with indent := column, outer := s.indent :: s.outer,
             tokens := s.tokens.insertIdxIfInBounds place t }
  else s

/-! ## Pending keys -/

/-- The outcome of reading on. -/
abbrev Step := Except LexicalFault

/-- Forgets the pending key of the present level; a required one must have been followed by a
colon. -/
def dropPending (s : Lexer) : Step Lexer :=
  if (s.pending.lookup s.depth).any (·.required) then .error .malformed
  else .ok { s with pending := s.pending.filter fun p => p.1 != s.depth }

/-- Forgets the keys that started on an earlier line or too long ago. -/
def dropStale (s : Lexer) : Step Lexer :=
  let isStale (k : PendingKey) : Bool :=
    k.line != s.cursor.line || k.index + 1024 < s.cursor.index
  if s.pending.any fun p => isStale p.2 && p.2.required then .error .malformed
  else .ok { s with pending := s.pending.filter fun p => !isStale p.2 }

/-- Remembers that a key may start here. -/
def savePending (s : Lexer) : Step Lexer :=
  if s.keyAllowed then do
    let required := !s.inFlow && s.indent == s.column
    let s ← s.dropPending
    let k : PendingKey :=
      ⟨s.tokens.size, required, s.cursor.index, s.cursor.line, s.cursor.column⟩
    return { s with pending := (s.depth, k) :: s.pending }
  else .ok s

/-- The number of tokens that cannot become keys any more. -/
def settled (s : Lexer) : Nat := s.pending.foldl (fun n p => min n p.2.token) s.tokens.size

/-! ## Tokens -/

/-- A line that starts or ends a document, or holds a directive. -/
def boundary (s : Lexer) (t : Token) (n : Nat) : Step Lexer := do
  let s ← (s.unwind (-1)).dropPending
  return { s with keyAllowed := false }.indicator t n

/-- Whether a blank, a line's end or the text's end comes next. -/
def atBlank (c : Cursor) : Bool := c.peek?.all fun x => x == ' ' || isBreak x

/-- Whether a character may stand in a name. -/
def isNameChar (c : Char) : Bool := c.isAlphanum || c == '-' || c == '_'

/-- A number of a version. -/
def versionNumber (c : Cursor) : Step (Nat × Cursor) :=
  match c.takeWhile Char.isDigit with
  | ([], _) => .error .malformed
  | (ds, c) => .ok (ds.foldl (fun n d => 10 * n + (d.toNat - 48)) 0, c)

/-- A version: two numbers with a point between them. -/
def version (c : Cursor) : Step (Nat × Cursor) := do
  let (major, c) ← versionNumber c
  if !c.starts (· == '.') then .error .malformed
  else
    let (_, c) ← versionNumber c.next
    if atBlank c then return (major, c) else .error .malformed

/-- Whether a character may stand in an address. -/
def isAddressChar (c : Char) : Bool :=
  c.isAlphanum || "-;/?:@&=+$,_.!~*'()[]%".toList.contains c

/-- The bytes that percent signs and pairs of hexadecimal digits denote. -/
def percentBytes : List Char → Option (List UInt8 × List Char)
  | '%' :: a :: b :: cs => do
    let n ← Scalar.ofHex? [a, b]
    let (more, rest) ← percentBytes cs
    return (UInt8.ofNat n :: more, rest)
  | '%' :: _ => none
  | cs => some ([], cs)

/-- The text of an address, its bytes decoded. -/
def decodeAddress : (fuel : Nat) → List Char → Option (List Char)
  | 0, _ => some []
  | fuel + 1, cs =>
    match cs with
    | [] => some []
    | '%' :: _ => do
      let (bytes, rest) ← percentBytes cs
      let run ← String.fromUTF8? ⟨bytes.toArray⟩
      return run.toList ++ (← decodeAddress fuel rest)
    | c :: rest => (decodeAddress fuel rest).map (c :: ·)

/-- An address. -/
def address (c : Cursor) : Step (List Char × Cursor) :=
  match c.takeWhile isAddressChar with
  | ([], _) => .error .malformed
  | (cs, c) =>
    match decodeAddress cs.length cs with
    | some cs => .ok (cs, c)
    | none => .error .malformed

/-- A handle: one exclamation mark, or two with a name between them. -/
def handle (c : Cursor) : Step (List Char × Cursor) :=
  let (name, after) := c.next.takeWhile isNameChar
  if !c.starts (· == '!') then .error .malformed
  else if c.next.starts (· == ' ') then .ok (['!'], c.next)
  else if after.starts (· == '!') then .ok ('!' :: (name ++ ['!']), after.next)
  else .error .malformed

/-- What a directive of a name says. -/
def directiveValue (name : String) (c : Cursor) : Step (Directive × Cursor) :=
  let body := c.dropWhile (· == ' ')
  if name = "YAML" then do
    let (major, c) ← version body
    return (.version major, c)
  else if name = "TAG" then do
    let (name, c) ← handle body
    if !c.starts (· == ' ') then .error .malformed
    let (tag, c) ← address (c.dropWhile (· == ' '))
    if atBlank c then return (.handle (String.ofList name) (String.ofList tag), c)
    else .error .malformed
  else .ok (.other, c.dropWhile (!isBreak ·))

/-- A line in front of a document; nothing but a comment follows its value. -/
def directive (s : Lexer) : Step Lexer := do
  let s ← (s.unwind (-1)).dropPending
  let (name, c) := s.cursor.next.takeWhile isNameChar
  if name.isEmpty || !atBlank c then .error .malformed
  else
    let (d, c) ← directiveValue (String.ofList name) c
    let c ← match Scalar.headerLine c with
      | some c => Except.ok c
      | none => .error .malformed
    return { s with keyAllowed := false, cursor := c }.push (.directive d)

def flowStart (s : Lexer) (t : Token) : Step Lexer := do
  let s ← s.savePending
  return { s with depth := s.depth + 1, keyAllowed := true }.indicator t 1

def flowEnd (s : Lexer) (t : Token) : Step Lexer := do
  let s ← s.dropPending
  return { s with depth := s.depth - 1, keyAllowed := false }.indicator t 1

def flowEntry (s : Lexer) : Step Lexer := do
  let s ← { s with keyAllowed := true }.dropPending
  return s.indicator .flowEntry 1

def blockEntry (s : Lexer) : Step Lexer := do
  let s ←
    if s.inFlow then Except.ok s
    else if s.keyAllowed then .ok (s.openBlock s.column s.tokens.size .blockSequenceStart)
    else .error .malformed
  let s ← { s with keyAllowed := true }.dropPending
  return s.indicator .blockEntry 1

def keyIndicator (s : Lexer) : Step Lexer := do
  let s ←
    if s.inFlow then Except.ok s
    else if s.keyAllowed then .ok (s.openBlock s.column s.tokens.size .blockMappingStart)
    else .error .malformed
  let s ← { s with keyAllowed := !s.inFlow }.dropPending
  return s.indicator .key 1

/-- A colon: what was pending is a key after all. -/
def valueIndicator (s : Lexer) : Step Lexer :=
  match s.pending.lookup s.depth with
  | some k =>
    let s := { s with
      pending := s.pending.filter fun p => p.1 != s.depth
      tokens := s.tokens.insertIdxIfInBounds k.token .key
      keyAllowed := false }
    let s := if s.inFlow then s else s.openBlock k.column k.token .blockMappingStart
    .ok (s.indicator .value 1)
  | none => do
    let s ←
      if s.inFlow then Except.ok s
      else if s.keyAllowed then .ok (s.openBlock s.column s.tokens.size .blockMappingStart)
      else .error .malformed
    let s ← { s with keyAllowed := !s.inFlow }.dropPending
    return s.indicator .value 1

/-- The name after an ampersand or an asterisk. -/
def nameAfter (s : Lexer) (token : String → Token) : Step Lexer := do
  let s ← s.savePending
  let (name, c) := s.cursor.next.takeWhile isNameChar
  let ends := match c.peek? with
    | none => true
    | some x => isGap x || "?:,]\x7d%@\x60".toList.contains x
  if name.isEmpty || !ends then .error .malformed
  else return { s with keyAllowed := false, cursor := c }.push (token (String.ofList name))

/-- A tag: an address between angle brackets, one exclamation mark, or a handle and what follows
it. -/
def tagAfter (s : Lexer) : Step Lexer := do
  let s ← s.savePending
  let c := s.cursor.next
  let (handle, suffix, c) ←
    if c.starts (· == '<') then do
      let (tag, c) ← address c.next
      if c.starts (· == '>') then Except.ok ([], tag, c.next) else .error .malformed
    else if endsWord c.peek? then .ok ([], ['!'], c)
    else if (c.rest.takeWhile fun x => !(x == ' ' || isBreak x)).contains '!' then do
      let (name, c) ← handle s.cursor
      let (tag, c) ← address c
      .ok (name, tag, c)
    else do
      let (tag, c) ← address c
      .ok (['!'], tag, c)
  if atBlank c then
    return { s with keyAllowed := false, cursor := c }.push
      (.tag (String.ofList handle) (String.ofList suffix))
  else .error .malformed

def blockScalar (s : Lexer) : Step Lexer := do
  let s ← { s with keyAllowed := true }.dropPending
  match Scalar.block s.indent s.cursor with
  | some (text, c) => return { s with cursor := c }.push (.scalar (String.ofList text) false)
  | none => .error .malformed

def quotedScalar (s : Lexer) : Step Lexer := do
  let s ← s.savePending
  let (text, c) ← Scalar.quoted s.cursor
  return { s with keyAllowed := false, cursor := c }.push (.scalar (String.ofList text) false)

def plainScalar (s : Lexer) : Step Lexer := do
  let s ← s.savePending
  let (text, ended, c) := Scalar.plain s.inFlow (s.indent + 1).toNat s.cursor
  return { s with keyAllowed := ended, cursor := c }.push (.scalar (String.ofList text) true)

/-- Whether a plain scalar may start with `x` before `next`. -/
def startsPlain (s : Lexer) (x : Char) (next : Option Char) : Bool :=
  (!isGap x && !"-?:,[]\x7b\x7d#&*!|>\x27\"%@\x60".toList.contains x) ||
    (!endsWord next && (x == '-' || (!s.inFlow && (x == '?' || x == ':'))))

/-- Reads the token that starts with `x`. -/
def token (s : Lexer) (x : Char) : Step Lexer :=
  let next := s.cursor.peekAt? 1
  if x == '%' && s.cursor.column == 0 then s.directive
  else if s.cursor.column == 0 && s.cursor.atMarker '-' then s.boundary .documentStart 3
  else if s.cursor.column == 0 && s.cursor.atMarker '.' then s.boundary .documentEnd 3
  else if x == '[' then s.flowStart .flowSequenceStart
  else if x == '\x7b' then s.flowStart .flowMappingStart
  else if x == ']' then s.flowEnd .flowSequenceEnd
  else if x == '\x7d' then s.flowEnd .flowMappingEnd
  else if x == ',' then s.flowEntry
  else if x == '-' && endsWord next then s.blockEntry
  else if x == '?' && (s.inFlow || endsWord next) then s.keyIndicator
  else if x == ':' && (s.inFlow || endsWord next) then s.valueIndicator
  else if x == '*' then s.nameAfter .alias
  else if x == '&' then s.nameAfter .anchor
  else if x == '!' then s.tagAfter
  else if (x == '|' || x == '>') && !s.inFlow then s.blockScalar
  else if x == '\x27' || x == '"' then s.quotedScalar
  else if s.startsPlain x next then s.plainScalar
  else .error .malformed

/-- Reads one token, and says whether the text ended. -/
def step (s : Lexer) : Step (Lexer × Bool) := do
  let s ← (s.skipMark.skipBlanks (s.cursor.rest.length + 1)).dropStale
  let s := s.unwind s.column
  match s.cursor.peek? with
  | none => do
    let s ← (s.unwind (-1)).dropPending
    return (s.push .streamEnd, true)
  | some x => return (← (← s.token x).dropStale, false)

/-- The tokens from here on. -/
def run : (fuel : Nat) → Lexer → Array Token
  | 0, s => s.tokens.push (.broken .malformed)
  | fuel + 1, s =>
    match s.step with
    | .error why => (s.tokens.take s.settled).push (.broken why)
    | .ok (s, true) => s.tokens
    | .ok (s, false) => run fuel s

end Lexer

/-- The tokens of a text. -/
def Token.ofText (text : String) : List Token :=
  ((Lexer.ofText text).run (text.length + 1)).toList

end Criteria.Yaml
