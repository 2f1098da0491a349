import Criteria.Toml.Moment
import Criteria.Toml.Number
import Criteria.Toml.Text
import Criteria.Value.Access

/-!
# Settings files in tables

A file is a list of statements: a key with its value, the heading of a table, or the heading of one
more table in a list of tables. Keys are dotted paths. No value is set twice, and a table is opened
only once and not extended from outside after it was written in braces.

* `modifyAt` changes the table at a path.
* `value` reads a value, `read` the table of a whole file.
-/

namespace Criteria.Toml

/-! ## Tables -/

/-- The entries of a table. -/
abbrev Entries := List (Value × Value)

def child? (entries : Entries) (name : String) : Option Value :=
  (entries.find? fun e => e.1.eq (.str name)).map (·.2)

/-- Changes the table at a path, opening the tables on the way that are not there; `lists` says
whether a list of tables stands for its last one. -/
def modifyAt (lists : Bool) (f : Entries → Option Entries) :
    List String → Entries → Option Entries
  | [], entries => f entries
  | k :: ks, entries => do
    let changed ←
      match child? entries k with
      | none => (modifyAt lists f ks []).map Value.map
      | some (.map inner) => (modifyAt lists f ks inner).map Value.map
      | some (.list items) =>
        match lists, items.getLast? with
        | true, some (.map inner) =>
          (modifyAt lists f ks inner).map fun inner => Value.list (items.dropLast ++ [.map inner])
        | _, _ => none
      | some _ => none
    return Value.insertEntry entries (.str k) changed

/-- Sets a name that is not set. -/
def setNew (name : String) (v : Value) (entries : Entries) : Option Entries :=
  if (child? entries name).isSome then none else some (Value.insertEntry entries (.str name) v)

/-- Adds an empty table to the list under a name. -/
def addTable (name : String) (entries : Entries) : Option Entries :=
  match child? entries name with
  | none => some (Value.insertEntry entries (.str name) (.list [.map []]))
  | some (.list items) =>
    some (Value.insertEntry entries (.str name) (.list (items ++ [.map []])))
  | some _ => none

/-! ## Keys -/

def isKeyChar (c : Char) : Bool := c.isAlphanum || c == '-' || c == '_'

/-- One part of a key: bare or quoted. -/
def keyPart (cs : List Char) : Option (String × List Char) :=
  match cs with
  | '"' :: rest => (basicText false (rest.length + 1) rest).map fun (t, r) => (String.ofList t, r)
  | '\x27' :: rest => (literalText rest).map fun (t, r) => (String.ofList t, r)
  | _ =>
    let name := cs.takeWhile isKeyChar
    if name.isEmpty then none else some (String.ofList name, cs.dropWhile isKeyChar)

/-- A key: parts with points between them, and blanks around. -/
def key : (fuel : Nat) → List Char → Option (List String × List Char)
  | 0, _ => none
  | fuel + 1, cs => do
    let (part, rest) ← keyPart cs
    match skipBlanks rest with
    | '.' :: rest => do
      let (parts, rest) ← key fuel (skipBlanks rest)
      return (part :: parts, rest)
    | rest => return ([part], rest)

/-! ## Values -/

/-- Moves over a comment; a comment holds no control characters. -/
def comment (cs : List Char) : Option (List Char) :=
  match cs with
  | '#' :: rest =>
    if (rest.takeWhile (· != '\n')).any isControl then none
    else some (rest.dropWhile (· != '\n'))
  | _ => some cs

/-- Moves over blanks, line breaks and comments. -/
def gaps : (fuel : Nat) → List Char → Option (List Char)
  | 0, cs => some cs
  | fuel + 1, cs => do
    match cs.dropWhile isGap with
    | '#' :: rest => do gaps fuel (← comment ('#' :: rest))
    | rest => return rest

/-- The paths inside a table in braces that may not be extended. -/
abbrev Closed := List (List String)

def Closed.covers (closed : Closed) (path : List String) : Bool :=
  closed.any fun p => p.isPrefixOf path

/-- Whether a value was written in brackets or braces. -/
def isCollection : Value → Bool
  | .list _ | .map _ => true
  | _ => false

/-- The path without its last part, and that part. -/
def splitLast (path : List String) : List String × String := (path.dropLast, path.getLastD "")

mutual

/-- A value, and what follows it. -/
def value : (fuel : Nat) → List Char → Except Error (Value × List Char)
  | 0, _ => .error .malformed
  | fuel + 1, cs =>
    match cs with
    | '"' :: _ | '\x27' :: _ => do
      let (t, rest) ← demand (text cs)
      return (.str (String.ofList t), rest)
    | 't' :: 'r' :: 'u' :: 'e' :: rest => .ok (.bool true, rest)
    | 'f' :: 'a' :: 'l' :: 's' :: 'e' :: rest => .ok (.bool false, rest)
    | '[' :: rest => do
      let (items, rest) ← items fuel (← demand (gaps (rest.length + 1) rest))
      return (.list items, rest)
    | '\x7b' :: rest =>
      match skipBlanks rest with
      | '\x7d' :: rest => .ok (.map [], rest)
      | rest => do
        let (entries, rest) ← pairs fuel [] [] rest
        return (.map entries, rest)
    | _ =>
      match Moment.read? cs with
      | some (some s, rest) => .ok (.stamp s, rest)
      | some (none, _) => .error .malformed
      | none => number cs

/-- The items of a list up to its closing bracket. -/
def items : (fuel : Nat) → List Char → Except Error (List Value × List Char)
  | 0, _ => .error .malformed
  | fuel + 1, cs =>
    match cs with
    | ']' :: rest => .ok ([], rest)
    | _ => do
      let (v, rest) ← value fuel cs
      match ← demand (gaps (rest.length + 1) rest) with
      | ']' :: rest => return ([v], rest)
      | ',' :: rest => do
        let (more, rest) ← items fuel (← demand (gaps (rest.length + 1) rest))
        return (v :: more, rest)
      | _ => .error .malformed

/-- The entries of a table in braces up to its closing brace. -/
def pairs : (fuel : Nat) → Closed → Entries → List Char → Except Error (Entries × List Char)
  | 0, _, _, _ => .error .malformed
  | fuel + 1, closed, entries, cs => do
    let (path, rest) ← demand (key (cs.length + 1) cs)
    let '=' :: rest := rest | .error .malformed
    let (v, rest) ← value fuel (skipBlanks rest)
    let (parents, name) := splitLast path
    if closed.covers path then .error .malformed
    let entries ← demand (modifyAt false (setNew name v) parents entries)
    match skipBlanks rest with
    | '\x7d' :: rest => return (entries, rest)
    | ',' :: rest =>
      pairs fuel (if isCollection v then path :: closed else closed) entries (skipBlanks rest)
    | _ => .error .malformed

end

/-! ## Statements -/

/-- A file as far as it is read: its table, the table that statements belong to, the tables that
have been opened, those to be counted as opened at the next heading, and the paths that may not be
extended. -/
structure File where
  entries : Entries
  heading : List String
  opened : List (List String)
  pending : List (List String)
  closed : Closed
  deriving Repr

namespace File

def empty : File := ⟨[], [], [], [], []⟩

/-- The nonempty beginnings of a path, without the path itself. -/
def beginnings (path : List String) : List (List String) :=
  (List.range (path.length - 1)).map fun i => path.take (i + 1)

/-- Sets the value of a key under the present heading. -/
def set (file : File) (path : List String) (v : Value) : Option File := do
  let (parents, name) := splitLast path
  let inner := (beginnings path).map (file.heading ++ ·)
  if inner.any file.opened.contains then none
  let table := file.heading ++ parents
  if !table.isEmpty && file.closed.covers table then none
  let entries ← modifyAt true (setNew name v) table file.entries
  return { file with
    entries
    pending := inner ++ file.pending
    closed := if isCollection v then (file.heading ++ path) :: file.closed else file.closed }

/-- What was opened by dotted keys counts from the next heading on. -/
def settle (file : File) : File :=
  { file with opened := file.pending ++ file.opened, pending := [] }

/-- The heading of a table. -/
def openTable (file : File) (path : List String) : Option File := do
  if file.opened.contains path || file.closed.covers path then none
  let entries ← modifyAt true some path file.entries
  return { file with entries, heading := path, opened := path :: file.opened }

/-- The heading of one more table in a list. What was known about the table before it is
forgotten. -/
def openItem (file : File) (path : List String) : Option File := do
  if file.closed.covers path then none
  let (parents, name) := splitLast path
  let entries ← modifyAt true (addTable name) parents file.entries
  let outside (p : List String) : Bool := !path.isPrefixOf p
  return { file with
    entries
    heading := path
    opened := path :: file.opened.filter outside
    closed := file.closed.filter outside }

/-- A heading after its first bracket. -/
def headingLine (file : File) (cs : List Char) : Option (File × List Char) := do
  let file := file.settle
  match cs with
  | '[' :: cs => do
    let (path, rest) ← key (cs.length + 1) (skipBlanks cs)
    let ']' :: ']' :: rest := rest | none
    return (← file.openItem path, rest)
  | cs => do
    let (path, rest) ← key (cs.length + 1) (skipBlanks cs)
    let ']' :: rest := rest | none
    return (← file.openTable path, rest)

/-- A key with its value. -/
def assignment (file : File) (cs : List Char) : Except Error (File × List Char) := do
  let (path, rest) ← demand (key (cs.length + 1) cs)
  let '=' :: rest := rest | .error .malformed
  let (v, rest) ← value (2 * cs.length + 2) (skipBlanks rest)
  return (← demand (file.set path v), rest)

/-- The statement of a line, if it has one; a comment may follow. -/
def statement (file : File) (cs : List Char) : Except Error (File × List Char) :=
  match skipBlanks cs with
  | '[' :: rest => demand (file.headingLine rest)
  | c :: rest =>
    if c == '\n' || c == '#' then .ok (file, c :: rest) else file.assignment (c :: rest)
  | [] => .ok (file, [])

/-- The statements of the lines from here on. -/
def statements : (fuel : Nat) → File → List Char → Except Error File
  | 0, _, _ => .error .malformed
  | fuel + 1, file, cs => do
    let (file, rest) ← file.statement cs
    match ← demand (comment (skipBlanks rest)) with
    | [] => return file
    | '\n' :: rest => statements fuel file rest
    | _ => .error .malformed

end File

/-- Every pair of a carriage return and a line feed as a line feed. -/
def lineFeeds : List Char → List Char
  | '\r' :: '\n' :: cs => '\n' :: lineFeeds cs
  | c :: cs => c :: lineFeeds cs
  | [] => []

/-- The table that a file describes. -/
def read (text : String) : Except Error Value :=
  let cs := lineFeeds text.toList
  (File.empty.statements (cs.length + 1) cs).map fun file => .map file.entries

end Criteria.Toml
