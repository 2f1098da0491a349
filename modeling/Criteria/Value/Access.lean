import Criteria.Fault
import Criteria.Value.Equality
import Criteria.Value.Trait

/-!
# Reading values

Iteration, membership, lookup and hashability. A mapping is iterated by its keys, a text by its
characters and bytes by their numbers; only values that cannot change may be looked up as keys.
-/

namespace Criteria

mutual

/-- Whether the value may be a key; a tuple may if its items may. -/
def Value.hashable : Value → Except Fault Unit
  | .list _ => .error (.unhashable "list")
  | .map _ => .error (.unhashable "dict")
  | .view _ => .error (.unhashable "mappingproxy")
  | .record _ => .error (.unhashable "types.SimpleNamespace")
  | .data _ => .error (.unhashable "Data")
  | .set _ => .error (.unhashable "set")
  | .outer isMapping _ => .error (.unhashable (if isMapping then "dict" else "list"))
  | .tuple items => Value.allHashable items
  | _ => .ok ()

/-- The first item that may not be a key decides. -/
def Value.allHashable : List Value → Except Fault Unit
  | [] => .ok ()
  | v :: vs =>
    match v.hashable with
    | .ok () => Value.allHashable vs
    | .error e => .error e

end

/-- Whether two keys that were read from files are one: they are equal, or both are no number. -/
def Value.sameKey (k l : Value) : Bool :=
  match k, l with
  | .float x, .float y => k.eq l || (x.view = .nan && y.view = .nan)
  | _, _ => k.eq l

/-- The mapping with one more entry: an equal key keeps its place and gets the new value. -/
def Value.insertEntry (entries : List (Value × Value)) (k v : Value) : List (Value × Value) :=
  if entries.any fun e => e.1.eq k then
    entries.map fun e => if e.1.eq k then (e.1, v) else e
  else entries ++ [(k, v)]

/-- The entries of the mapping to which the given ones were added in turn. -/
def Value.ofEntries : List (Value × Value) → Except Fault (List (Value × Value))
  | entries => entries.foldlM (fun all e => do
      e.1.hashable
      return Value.insertEntry all e.1 e.2) []

/-- Whether the first list occurs in the second as an unbroken run. -/
def occursIn {α : Type} [BEq α] (part : List α) : List α → Bool
  | [] => part.isEmpty
  | x :: xs => part.isPrefixOf (x :: xs) || occursIn part xs

namespace Datum

/-- The keys of a mapping; key and value of one entry are two parts. -/
def keys (d : Datum) (entries : List (Value × Value)) : List Datum :=
  entries.zipIdx.map fun (e, i) => ⟨e.1, d.origin.part (2 * i)⟩

/-- The part of a mapping under a text key. -/
def lookup? (d : Datum) (name : String) : Option Datum := do
  let entries ← d.value.mapping?
  let (i, v) ← Value.findEntry? (fun k => k.eq (.str name)) entries
  return ⟨v, d.origin.part (2 * i + 1)⟩

/-- The attribute of an object, or else what every value of the type has under the name. -/
def attribute? (d : Datum) (name : String) : Option Datum :=
  match Value.findEntry? (· == name) (d.value.attributes?.getD []) with
  | some (i, v) => some ⟨v, d.origin.part i⟩
  | none => (d.value.trait? name).map fun v => ⟨v, d.origin.part d.value.traitIndex⟩

/-- The items that a loop over the value meets. -/
def iterate (d : Datum) : Except Fault (List Datum) :=
  match d.value with
  | .list items | .tuple items | .set items => .ok (d.parts items)
  | .str s => .ok (d.parts (s.toList.map fun c => .str (String.singleton c)))
  | .bytes b => .ok (d.parts (b.map fun x => .int x.toNat))
  | .map entries | .view entries => .ok (d.keys entries)
  | v => .error (.notIterable v.typeName)

/-- Whether the container holds the item. -/
def contains (container item : Datum) : Except Fault Bool :=
  match container.value with
  | .list items | .tuple items => .ok ((container.parts items).any item.alike)
  | .str s =>
    match item.value with
    | .str t => .ok (occursIn t.toList s.toList)
    | v => .error (.substringOperand v.typeName)
  | .bytes b =>
    match item.value with
    | .bytes t => .ok (occursIn t b)
    | .bool t => .ok (b.contains (if t then 1 else 0))
    | .int n =>
      if 0 ≤ n && n < 256 then .ok (b.any fun x => (x.toNat : Int) == n) else .error .byteRange
    | v => .error (.bytesOperand v.typeName)
  | .map entries | .view entries =>
    match item.value.hashable with
    | .error e => .error e
    | .ok () => .ok ((container.keys entries).any item.alike)
  | .set items =>
    match item.value.hashable with
    | .error e => .error e
    | .ok () => .ok ((container.parts items).any item.alike)
  | v => .error (.notContainer v.typeName)

end Datum

end Criteria
