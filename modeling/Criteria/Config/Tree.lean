import Criteria.Text.Dotted
import Criteria.Value.Access

/-!
# Trees of settings

Settings are mappings within mappings, and a mapping may stand in itself. A dotted key leads from
mapping to mapping.

* `Value.part` is a part of a mapping taken out of it.
* `Value.lookup` follows a key's parts, `Value.child?` one of them.
* `Value.overlay` lays one tree over another: mappings at the same place are joined entry by entry,
  anything else is replaced. A joined entry keeps its place.
-/

namespace Criteria

/-! ## Parts -/

mutual

/-- The value with the mapping in which it stands in the place of what leads out to that; `whole`
is the mapping as it looks from so many collections further in. -/
def Value.unroll (whole : Nat → Value) (depth : Nat) : Value → Value
  | .outer isMapping levels => if levels = depth then whole depth else .outer isMapping levels
  | .list items => .list (Value.unrollAll whole (depth + 1) items)
  | .map entries => .map (Value.unrollEntries whole (depth + 1) entries)
  | .tuple items => .tuple (Value.unrollAll whole depth items)
  | v => v

def Value.unrollAll (whole : Nat → Value) (depth : Nat) : List Value → List Value
  | [] => []
  | v :: vs => v.unroll whole depth :: Value.unrollAll whole depth vs

def Value.unrollEntries (whole : Nat → Value) (depth : Nat) :
    List (Value × Value) → List (Value × Value)
  | [] => []
  | (k, v) :: es => (k, v.unroll whole depth) :: Value.unrollEntries whole depth es

end

/-- The value where it is met again, so many collections further in. -/
def Value.again (depth : Nat) : Value → Value
  | .list _ => .outer false depth
  | .map _ => .outer true depth
  | v => v

/-- The part at an index of the mapping with these entries, taken out of it. What led from the part
to the mapping still does, and from there back to the part. -/
def Value.part (entries : List (Value × Value)) (i : Nat) (v : Value) : Value :=
  v.unroll (fun depth => .map (entries.modify i fun e => (e.1, e.2.again depth))) 0

/-- The entries of a mapping, the parts taken out of it. -/
def Value.parts (entries : List (Value × Value)) : List (Value × Value) :=
  entries.zipIdx.map fun (e, i) => (e.1, Value.part entries i e.2)

/-! ## Looking up -/

/-- The part of a mapping under a text; a mapping that can only be read has no parts here. -/
def Value.child? (v : Value) (name : String) : Option Value :=
  match v with
  | .map entries => ((Value.parts entries).find? fun e => e.1.eq (.str name)).map (·.2)
  | _ => .none

/-- What the parts of a key lead to. -/
def Value.follow (v : Value) : List String → Option Value
  | [] => some v
  | name :: names => (v.child? name).bind fun inner => inner.follow names

/-- What a dotted key leads to. -/
def Value.lookup (v : Value) (key : String) : Option Value := v.follow (Text.dotted key)

/-! ## Laying one tree over another -/

mutual

/-- The number of values in a value, itself included. -/
def Value.size : Value → Nat
  | .list items | .tuple items => 1 + Value.sizeAll items
  | .map entries => 1 + Value.sizeEntries entries
  | _ => 1

def Value.sizeAll : List Value → Nat
  | [] => 0
  | v :: vs => v.size + Value.sizeAll vs

def Value.sizeEntries : List (Value × Value) → Nat
  | [] => 0
  | (_, v) :: es => v.size + Value.sizeEntries es

end

/-- The entries with those of another mapping that have the same keys joined into them. -/
def Value.joinEntries (join : Value → Value → Except Fault Value) (upper : List (Value × Value)) :
    List (Value × Value) → Except Fault (List (Value × Value))
  | [] => .ok []
  | (k, v) :: lower => do
    let joined ←
      match upper.find? fun e => e.1.sameKey k with
      | some e => join v e.2
      | .none => .ok v
    let rest ← Value.joinEntries join upper lower
    return (k, joined) :: rest

/-- The upper value, joined with the lower one if both are mappings, at most `depth` mappings
deep. -/
def Value.overlayTo : (depth : Nat) → (lower upper : Value) → Except Fault Value
  | 0, _, _ => .error .tooDeep
  | depth + 1, .map lower, .map upper => do
    let above := Value.parts upper
    let joined ← Value.joinEntries (Value.overlayTo depth) above (Value.parts lower)
    return .map (joined ++ above.filter fun e => !lower.any fun f => f.1.sameKey e.1)
  | _ + 1, _, upper => .ok upper

/-- The upper value laid over the lower one. Two mappings that meet again on the way from themselves
have no end; else no two values meet twice on one way. -/
def Value.overlay (lower upper : Value) : Except Fault Value :=
  Value.overlayTo (lower.size * upper.size + 1) lower upper

/-! ## Reading as a mapping -/

/-- The entries of the mapping that a value can be read as: those of a mapping, or the pairs that
it lists. -/
def Value.toEntries (v : Value) : Except Fault (List (Value × Value)) :=
  match v.mapping? with
  | some entries => .ok entries
  | .none => do
    let datum (v : Value) : Datum := ⟨v, ⟨0, []⟩⟩
    let items ← (datum v).iterate
    items.zipIdx.foldlM (fun entries (item, i) =>
      match (datum item.value).iterate with
      | .error _ => .error (.notAPair i)
      | .ok [k, v] => do
        k.value.hashable
        return Value.insertEntry entries k.value v.value
      | .ok parts => .error (.badPair i parts.length)) []

end Criteria
