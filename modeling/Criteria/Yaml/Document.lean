import Criteria.Text.Base64
import Criteria.Value.Access
import Criteria.Yaml.Node
import Criteria.Yaml.Number

/-!
# The value of a document

The tag of a node decides what is built from it. Scalars become values at once; a collection is
first only put in line, and its parts are built when its turn comes, so a node may stand inside
itself, and of two faults the one nearer to the outermost node counts.

* `Builder.build` builds one node, `Builder.run` all nodes of a document.
* `Builder.flatten` gives a mapping the entries of the mappings merged into it.
* `Built.assemble` puts the values of collections together.
* `read` is the value of a text; a text without a document stands for nothing.

Documents are read by PyYAML's `safe_load`, whose code is not part of this. What is assumed of it is YAML
1.1 as it documents it: the standard tags and the spellings that imply them, anchors that may stand inside
what they name, `<<` for merged mappings, of two equal keys the later one, and an error for a tag that is
not standard, for a second document, and for a key that cannot be one.
-/

namespace Criteria.Yaml

/-- What has been built from a node. The parts of collections are known by their numbers; keys and
members are values, because only scalars may be keys. -/
inductive Built where
  | value (v : Value)
  | list (items : List Nat)
  | mapping (entries : List (Value × Nat))
  | set (items : List Value)
  | pairs (entries : List (Nat × Nat))
  deriving Repr

/-- The kinds of collections. -/
inductive Kind where
  | list
  | mapping
  | set
  | pairs
  deriving DecidableEq, Repr

/-- The collection that a tag asks for. -/
def Kind.ofTag? (tag : String) : Option Kind :=
  let kinds : List (String × Kind) :=
    [("seq", .list), ("map", .mapping), ("set", .set), ("omap", .pairs), ("pairs", .pairs)]
  kinds.findSome? fun (name, kind) => if tag = Tag.standard name then some kind else none

/-- The collection before its parts are built. -/
def Built.start : Kind → Built
  | .list => .list []
  | .mapping => .mapping []
  | .set => .set []
  | .pairs => .pairs []

/-! ## Scalars -/

/-- What a text stands for under the name of a standard tag; `some` text is the node's own. -/
def scalarValue (name text : String) (own : Option String) : Except Error Value :=
  let lift {α : Type} (r : Except Fault α) (f : α → Value) : Except Error Value :=
    match r with
    | .ok x => .ok (f x)
    | .error e => .error (.fault e)
  match name with
  | "null" => .ok .none
  | "str" => .ok (.str text)
  | "bool" =>
    let word := Text.lowerCase text
    if ["yes", "true", "on"].contains word then .ok (.bool true)
    else if ["no", "false", "off"].contains word then .ok (.bool false)
    else .error (.fault (.missingKey (.str word)))
  | "int" => lift (integer text) .int
  | "float" => lift (fraction text) .float
  | "binary" =>
    match Text.Base64.decode? text.toList with
    | some bytes =>
      if text.toList.all (·.toNat < 0x80) then .ok (.bytes bytes) else .error .construction
    | none => .error .construction
  | "timestamp" =>
    match own with
    | none => .error (.fault (.notText "list"))
    | some text =>
      match Timestamp.ofText? text with
      | none => .error (.fault (.missingAttribute "NoneType" "groupdict"))
      | some t => lift (t.stamp.mapError .calendar) .stamp
  | _ => .error .construction

/-! ## Building -/

/-- The nodes of a document, what has been built from each of them, and the collections in line. -/
structure Site where
  nodes : Array Node
  built : Array (Option Built)
  line : List (Nat × Kind)

abbrev Builder := StateT Site (Except Error)

namespace Builder

/-- Fails with an error. -/
def fail {α : Type} (e : Error) : Builder α := fun _ => .error e

def node (n : Nat) : Builder Node := return (← get).nodes.getD n default

def put (n : Nat) (b : Built) : Builder Unit :=
  modify fun s => { s with built := s.built.setIfInBounds n (some b) }

/-- The text of a scalar. A mapping with a default value stands for the text of that. -/
def scalarText (n : Nat) : (fuel : Nat) → Builder String
  | 0 => fail (.fault .tooDeep)
  | fuel + 1 => do
    match (← node n).body with
    | .scalar text => return text
    | .sequence _ => fail .construction
    | .mapping entries =>
      let s ← get
      match entries.find? fun e => (s.nodes.getD e.1 default).tag = Tag.standard "value" with
      | some e => scalarText e.2 fuel
      | none => fail .construction

/-- The name of a standard tag. -/
def standardName? (tag : String) : Option String :=
  let front := (Tag.standard "").toList
  if front.isPrefixOf tag.toList then some (String.ofList (tag.toList.drop front.length)) else none

/-- Builds the scalar under a standard tag; `own` is the text of the node itself. -/
def buildScalar (n : Nat) (name : String) (own : Option String) : Builder Built := do
  let text ← scalarText n ((← get).nodes.size + 1)
  match scalarValue name text own with
  | .ok v => do
    put n (.value v)
    return .value v
  | .error e => fail e

/-- Builds a node unless it is built; a collection is put in line. -/
def build (n : Nat) : Builder Built := do
  match (← get).built.getD n none with
  | some b => return b
  | none => do
    let node ← node n
    match Kind.ofTag? node.tag, standardName? node.tag with
    | some kind, _ => do
      let b := Built.start kind
      put n b
      modify fun s => { s with line := s.line ++ [(n, kind)] }
      return b
    | none, none => fail .construction
    | none, some name => do
      let known := ["null", "str", "bool", "int", "float", "binary", "timestamp"]
      unless known.contains name do fail .construction
      buildScalar n name node.body.text?

/-- The entries of a mapping. -/
def entriesOf (n : Nat) : Builder (List (Nat × Nat)) := do
  match (← node n).body with
  | .mapping entries => return entries
  | _ => fail .construction

/-- The entries that the merged node `n` brings; of several mappings the first has the last word. -/
def merged (flatten : Nat → Builder Unit) (n : Nat) : Builder (List (Nat × Nat)) := do
  match (← node n).body with
  | .scalar _ => fail .construction
  | .mapping _ => do
    flatten n
    entriesOf n
  | .sequence items => do
    let lists ← items.mapM fun i => do
      let _ ← entriesOf i
      flatten i
      entriesOf i
    return lists.reverse.flatten

/-- Gives a mapping the entries merged into it, in front of its own. The sign of the default value
becomes a key like any text. -/
def flatten : (fuel : Nat) → Nat → Builder Unit
  | 0, _ => return
  | fuel + 1, n => do
    let entries ← entriesOf n
    let nodes := (← get).nodes
    let hasTag (name : String) (e : Nat × Nat) : Bool :=
      (nodes.getD e.1 default).tag = Tag.standard name
    let (merges, own) := entries.partition (hasTag "merge")
    let signs := own.filter (hasTag "value")
    modify fun s => { s with
      nodes := signs.foldl (fun nodes e =>
          nodes.modify e.1 fun node => { node with tag := Tag.standard "str" })
        (s.nodes.modify n fun node => { node with body := .mapping own }) }
    let lists ← merges.mapM fun e => merged (flatten fuel) e.2
    modify fun s => { s with nodes := s.nodes.modify n fun node =>
      match node.body with
      | .mapping own => { node with body := .mapping (lists.flatten ++ own) }
      | _ => node }

/-- The value of a key; a collection is none. -/
def key (n : Nat) : Builder Value := do
  match ← build n with
  | .value v => return v
  | _ => fail .construction

/-- The entries with one more: a known key keeps its place and gets the new part. -/
def insert (entries : List (Value × Nat)) (k : Value) (n : Nat) : List (Value × Nat) :=
  if entries.any fun e => e.1.sameKey k then
    entries.map fun e => if e.1.sameKey k then (e.1, n) else e
  else entries ++ [(k, n)]

/-- Builds the parts of a mapping, each key before what stands under it. -/
def entries (n : Nat) : Builder (List (Value × Nat)) := do
  let _ ← entriesOf n
  flatten ((← get).nodes.size + 1) n
  (← entriesOf n).foldlM (fun all (k, v) => do
    let key ← key k
    let _ ← build v
    return insert all key v) []

/-- The only entry of a mapping that stands for a pair. -/
def pair (n : Nat) : Builder (Nat × Nat) := do
  match ← entriesOf n with
  | [(k, v)] => do
    let _ ← build k
    let _ ← build v
    return (k, v)
  | _ => fail .construction

/-- The members of a set in the order in which they are written: whole numbers by size, others as
they came. -/
def arrange (items : List Value) : List Value :=
  let wholes := items.filterMap fun v => match v with
    | .int n => some n
    | _ => none
  if wholes.length = items.length then (wholes.mergeSort (· ≤ ·)).map .int else items

/-- Builds the parts of a collection. -/
def fill (n : Nat) (kind : Kind) : Builder Unit := do
  match kind, (← node n).body with
  | .list, .sequence items => do
    for i in items do
      let _ ← build i
    put n (.list items)
  | .mapping, .mapping _ => do put n (.mapping (← entries n))
  | .set, .mapping _ => do put n (.set (arrange ((← entries n).map (·.1))))
  | .pairs, .sequence items => do put n (.pairs (← items.mapM pair))
  | _, _ => fail .construction

/-- Builds the parts of the collections in line; each of them is there once. -/
def run : (fuel : Nat) → Builder Unit
  | 0 => return
  | fuel + 1 => do
    match (← get).line with
    | [] => return
    | (n, kind) :: line => do
      modify fun s => { s with line }
      fill n kind
      run fuel

end Builder

/-! ## Putting together -/

/-- The values of the nodes that have been put together. -/
abbrev Assembly := StateM (Array (Option Value))

/-- The value of a node, and whether it is whole: not if it leads back to a collection that it
stands in, one of `around`. -/
def Built.assemble (built : Array (Option Built)) :
    (fuel : Nat) → (around : List Nat) → Nat → Assembly (Value × Bool)
  | 0, _, _ => return (.none, true)
  | fuel + 1, around, n => do
    match (← get).getD n none with
    | some v => return (v, true)
    | none => do
      let part := assemble built fuel (n :: around)
      let (v, whole) ← match built.getD n none with
        | none => pure (Value.none, true)
        | some (.value v) => pure (v, true)
        | some (.set items) => pure (.set items, true)
        | some (.list items) =>
          if around.contains n then pure (.outer false (around.idxOf n), false)
          else do
            let parts ← items.mapM part
            pure (.list (parts.map (·.1)), parts.all (·.2))
        | some (.mapping entries) =>
          if around.contains n then pure (.outer true (around.idxOf n), false)
          else do
            let parts ← entries.mapM fun e => do return (e.1, ← part e.2)
            pure (.map (parts.map fun (k, v) => (k, v.1)), parts.all (·.2.2))
        | some (.pairs entries) =>
          if around.contains n then pure (.outer false (around.idxOf n), false)
          else do
            let parts ← entries.mapM fun e => do return (← part e.1, ← part e.2)
            pure (.list (parts.map fun (k, v) => .tuple [k.1, v.1]),
              parts.all fun (k, v) => k.2 && v.2)
      if whole then modify fun values => values.setIfInBounds n (some v)
      return (v, whole)

/-- The value of a document. -/
def Document.value (d : Document) : Except Error Value :=
  let size := d.nodes.size
  let started : Builder Unit := do
    let _ ← Builder.build d.root
    Builder.run size
  match StateT.run started ⟨d.nodes, Array.replicate size none, []⟩ with
  | .error e => .error e
  | .ok (_, s) =>
    .ok ((Built.assemble s.built (size + 1) [] d.root) (Array.replicate size none)).1.1

/-- Whether a document may hold a character. -/
def isPrintable (c : Char) : Bool :=
  let n := c.toNat
  n == 9 || n == 10 || n == 13 || (0x20 ≤ n && n ≤ 0x7e) || n == 0x85 || (0xa0 ≤ n && n ≤ 0xd7ff)
    || (0xe000 ≤ n && n ≤ 0xfffd) || 0x10000 ≤ n

/-- The value of a text. -/
def read (text : String) : Except Error Value :=
  if !text.toList.all isPrintable then .error .characters
  else
    match Document.ofTokens (Token.ofText text) with
    | .error e => .error e
    | .ok none => .ok .none
    | .ok (some d) => d.value

end Criteria.Yaml
