import Criteria.Fault
import Criteria.Yaml.Tag
import Criteria.Yaml.Token

/-!
# Nodes of a document

The tokens of a document form one node: a scalar, a sequence or a mapping. Nodes are numbered, and a
collection knows its parts by their numbers, because a node with a name may stand in several places,
even inside itself.

* `Node` is the type, `Document` the numbered nodes together with the outermost one.
* `Document.ofTokens` reads the only document of a text.
* `Error` lists the stages at which a text may be refused.
-/

namespace Criteria.Yaml

/-- Why a text is refused. -/
inductive Error where
  /-- It holds a character that no document may hold. -/
  | characters
  /-- It cannot be cut into tokens. -/
  | lexical
  /-- Its tokens form no node. -/
  | grammar
  /-- It names a node that is not there, gives a name twice, or holds several documents. -/
  | composition
  /-- A node stands for no value. -/
  | construction
  /-- The text of a scalar is no value of its kind. -/
  | fault (f : Fault)
  deriving Repr

def Error.ofLexical : LexicalFault → Error
  | .malformed => .lexical
  | .noSuchCharacter => .fault .noSuchCharacter
  | .characterTooLarge => .fault .characterTooLarge

/-- What a node holds. -/
inductive Body where
  | scalar (text : String)
  | sequence (items : List Nat)
  | mapping (entries : List (Nat × Nat))
  deriving Repr

/-- The text of a scalar. -/
def Body.text? : Body → Option String
  | .scalar text => some text
  | .sequence _ | .mapping _ => none

/-- A node; its tag says what kind of value it stands for. -/
structure Node where
  tag : String
  body : Body
  deriving Repr

instance : Inhabited Node := ⟨⟨"", .scalar ""⟩⟩

/-- Numbered nodes, and the number of the outermost one. -/
structure Document where
  nodes : Array Node
  root : Nat
  deriving Repr

namespace Document

/-- The tokens still to be read, the addresses that handles stand for, the nodes that have been
named, and all nodes so far. -/
structure Feed where
  tokens : List Token
  handles : List (String × String)
  named : List (String × Nat)
  nodes : Array Node

abbrev Reader := StateT Feed (Except Error)

/-- Fails with an error. -/
def fail {α : Type} (e : Error) : Reader α := fun _ => .error e

/-- The next token; where the text cannot be read on there is none. -/
def look : Reader Token := do
  match (← get).tokens with
  | .broken why :: _ => fail (.ofLexical why)
  | t :: _ => return t
  | [] => fail .lexical

/-- Moves over the next token. -/
def advance : Reader Unit := modify fun s => { s with tokens := s.tokens.drop 1 }

/-- Moves over a token that has to be here. -/
def require (t : Token) : Reader Unit := do
  if (← look) = t then advance else fail .grammar

/-- Moves over a token if it is here. -/
def skipIf (t : Token) : Reader Bool := do
  if (← look) = t then
    advance
    return true
  else return false

/-- Whether one of the tokens comes next. -/
def comes (ts : List Token) : Reader Bool := return ts.contains (← look)

/-- Adds a node, known by a name if it has one. -/
def add (name : Option String) (tag : String) (body : Body) : Reader Nat := do
  let s ← get
  let n := s.nodes.size
  match name with
  | none => set { s with nodes := s.nodes.push ⟨tag, body⟩ }
  | some name =>
    if (s.named.lookup name).isSome then fail .composition
    else set { s with nodes := s.nodes.push ⟨tag, body⟩, named := (name, n) :: s.named }
  return n

/-- Says what a collection holds, once its parts are read. -/
def fill (n : Nat) (body : Body) : Reader Nat := do
  modify fun s => { s with nodes := s.nodes.modify n fun node => { node with body } }
  return n

/-- The node that stands where nothing is written. -/
def empty : Reader Nat := add none (Tag.standard "null") (.scalar "")

/-- What stands in front of a node: a name, and a tag as it is written. -/
abbrev Properties := Option String × Option (String × String)

/-- The name and the tag in front of a node, in either order. -/
def propertiesOf (found : Properties) : (fuel : Nat) → Reader Properties
  | 0 => return found
  | fuel + 1 => do
    match ← look, found with
    | .anchor name, (none, tag) => do
      advance
      propertiesOf (some name, tag) fuel
    | .tag handle suffix, (name, none) => do
      advance
      propertiesOf (name, some (handle, suffix)) fuel
    | _, found => return found

/-- The tag that is meant; `none` if the node itself decides, which one exclamation mark says, too.
The second part says whether that mark was written. -/
def tagOf : Option (String × String) → Reader (Option String × Bool)
  | none => return (none, false)
  | some ("", "!") => return (none, true)
  | some ("", address) => return (some address, false)
  | some (handle, suffix) => do
    match (← get).handles.lookup handle with
    | some address => return (some (address ++ suffix), false)
    | none => fail .grammar

mutual

/-- A node. In block style it may be an indented collection; `bare` allows a sequence whose items
are not indented. -/
def read (isBlock bare : Bool) : (fuel : Nat) → Reader Nat
  | 0 => fail .grammar
  | fuel + 1 => do
    match ← look with
    | .alias name => do
      advance
      match (← get).named.lookup name with
      | some n => return n
      | none => fail .composition
    | _ => do
      let (name, written) ← propertiesOf (none, none) 2
      let next ← look
      let (tag, marked) ← tagOf written
      let sequence (items : Reader (List Nat)) : Reader Nat := do
        let n ← add name (tag.getD (Tag.standard "seq")) (.sequence [])
        fill n (.sequence (← items))
      let mapping (entries : Reader (List (Nat × Nat))) : Reader Nat := do
        let n ← add name (tag.getD (Tag.standard "map")) (.mapping [])
        fill n (.mapping (← entries))
      let missing : Reader Nat := do
        if name.isSome || written.isSome then
          add name (tag.getD (Tag.standard "null")) (.scalar "")
        else fail .grammar
      match next with
      | .scalar text plain => do
        advance
        let suggested := if plain || marked then Tag.ofPlain text else Tag.standard "str"
        add name (tag.getD suggested) (.scalar text)
      | .flowSequenceStart => sequence (do advance; flowItems true fuel)
      | .flowMappingStart => mapping (do advance; flowEntries true fuel)
      | .blockEntry => if bare then sequence (bareItems fuel) else missing
      | .blockSequenceStart =>
        if isBlock then sequence (do advance; blockItems fuel) else missing
      | .blockMappingStart =>
        if isBlock then mapping (do advance; blockEntries fuel) else missing
      | _ => missing

/-- A node, or nothing if one of the tokens comes instead. -/
def readUnless (ts : List Token) (isBlock bare : Bool) : (fuel : Nat) → Reader Nat
  | 0 => fail .grammar
  | fuel + 1 => do
    if ← comes ts then empty else read isBlock bare fuel

/-- The items of an indented sequence. -/
def blockItems : (fuel : Nat) → Reader (List Nat)
  | 0 => fail .grammar
  | fuel + 1 => do
    if ← skipIf .blockEntry then
      let item ← readUnless [.blockEntry, .blockEnd] true false fuel
      return item :: (← blockItems fuel)
    else
      require .blockEnd
      return []

/-- The items of a sequence that is not indented. -/
def bareItems : (fuel : Nat) → Reader (List Nat)
  | 0 => fail .grammar
  | fuel + 1 => do
    if ← skipIf .blockEntry then
      let item ← readUnless [.blockEntry, .key, .value, .blockEnd] true false fuel
      return item :: (← bareItems fuel)
    else return []

/-- The entries of an indented mapping. -/
def blockEntries : (fuel : Nat) → Reader (List (Nat × Nat))
  | 0 => fail .grammar
  | fuel + 1 => do
    if ← skipIf .key then
      let key ← readUnless [.key, .value, .blockEnd] true true fuel
      let value ←
        if ← skipIf .value then readUnless [.key, .value, .blockEnd] true true fuel
        else empty
      return (key, value) :: (← blockEntries fuel)
    else
      require .blockEnd
      return []

/-- The items of a sequence in brackets; a key makes an item a mapping with one entry. -/
def flowItems (first : Bool) : (fuel : Nat) → Reader (List Nat)
  | 0 => fail .grammar
  | fuel + 1 => do
    if ← skipIf .flowSequenceEnd then return []
    else
      if !first then require .flowEntry
      if ← skipIf .key then
        let key ← readUnless [.value, .flowEntry, .flowSequenceEnd] false false fuel
        let value ←
          if ← skipIf .value then
            readUnless [.flowEntry, .flowSequenceEnd] false false fuel
          else empty
        let one ← add none (Tag.standard "map") (.mapping [(key, value)])
        return one :: (← flowItems false fuel)
      else if ← skipIf .flowSequenceEnd then return []
      else
        let item ← read false false fuel
        return item :: (← flowItems false fuel)

/-- The entries of a mapping in braces. -/
def flowEntries (first : Bool) : (fuel : Nat) → Reader (List (Nat × Nat))
  | 0 => fail .grammar
  | fuel + 1 => do
    if ← skipIf .flowMappingEnd then return []
    else
      if !first then require .flowEntry
      if ← skipIf .key then
        let key ← readUnless [.value, .flowEntry, .flowMappingEnd] false false fuel
        let value ←
          if ← skipIf .value then
            readUnless [.flowEntry, .flowMappingEnd] false false fuel
          else empty
        return (key, value) :: (← flowEntries false fuel)
      else if ← skipIf .flowMappingEnd then return []
      else
        let key ← read false false fuel
        return (key, ← empty) :: (← flowEntries false fuel)

end

/-- How a document starts. -/
inductive Opening where
  /-- There is none. -/
  | absent
  /-- With its first token. -/
  | bare
  /-- After a line of hyphens. -/
  | marked
  deriving DecidableEq

/-- The handles that need no directive. -/
def standardHandles : List (String × String) := [("!", "!"), ("!!", "tag:yaml.org,2002:")]

/-- Moves over directives and the line of hyphens after them. No directive is given twice, and only
versions 1 of the notation are known. -/
def marker (versioned : Bool) (handles : List (String × String)) : (fuel : Nat) → Reader Opening
  | 0 => fail .grammar
  | fuel + 1 => do
    match ← look with
    | .directive d => do
      advance
      match d with
      | .version major =>
        if versioned || major != 1 then fail .grammar else marker true handles fuel
      | .handle name address =>
        if (handles.lookup name).isSome then fail .grammar
        else marker versioned ((name, address) :: handles) fuel
      | .other => marker versioned handles fuel
    | _ => do
      require .documentStart
      modify fun s => { s with handles := handles ++ standardHandles }
      return .marked

/-- Whether a directive comes next. -/
def comesDirective : Reader Bool := do
  match ← look with
  | .directive _ => return true
  | _ => return false

/-- The opening of the first document. -/
def firstOpening (fuel : Nat) : Reader Opening := do
  if ← comes [.streamEnd] then return .absent
  else if (← comesDirective) || (← comes [.documentStart]) then marker false [] fuel
  else return .bare

/-- The opening of a further document; the end of the one before may be marked several times. -/
def nextOpening : (fuel : Nat) → Reader Opening
  | 0 => fail .grammar
  | fuel + 1 => do
    if ← skipIf .documentEnd then nextOpening fuel
    else if ← comes [.streamEnd] then return .absent
    else marker false [] fuel

/-- The number of the outermost node of the only document, if there is one. -/
def outermost (fuel : Nat) : Reader (Option Nat) := do
  let root ← match ← firstOpening fuel with
    | .absent => return none
    | .bare => read true false fuel
    | .marked =>
      if (← comesDirective) || (← comes [.documentStart, .documentEnd, .streamEnd]) then empty
      else read true false fuel
  if (← nextOpening fuel) = .absent then return some root else fail .composition

/-- The document that the tokens of a text form; a text may hold none. -/
def ofTokens (ts : List Token) : Except Error (Option Document) :=
  match (outermost (3 * ts.length + 8)).run ⟨ts, standardHandles, [], #[]⟩ with
  | .error e => .error e
  | .ok (none, _) => .ok none
  | .ok (some root, s) => .ok (some ⟨s.nodes, root⟩)

end Document

end Criteria.Yaml
