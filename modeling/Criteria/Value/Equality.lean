import Criteria.Value.Basic

/-!
# Equality and sameness

Two values are *equal* if they have the same content: numbers by their exact value, sequences item
by item, mappings as sets of entries. Two values are *the same* if they are one object. A container
holds a value as soon as one of its items is the same or equal, which matters for the one value that
does not equal itself, *not a number*.

* `Value.eq` compares content.
* `Origin` says which object a value is: a numbered object or a part of one. `Datum` is a value
  together with its origin, and `Datum.same` is sameness: small constants exist only once, all other
  values are the same if their origins agree and one object can have both contents.
-/

namespace Criteria

mutual

/-- Equality of the contents of two different objects. Their parts are different objects too, so a list
that holds *not a number* equals no other one; that it equals itself is known to `Datum.eq`, which looks
at the objects first. -/
def Value.eq : Value → Value → Bool
  | .list xs, .list ys => Value.eqList xs ys
  | .tuple xs, .tuple ys => Value.eqList xs ys
  | .map es, v | .view es, v =>
    match v.mapping? with
    | some fs => es.length == fs.length && Value.within es fs
    | .none => false
  | .record es, .record fs => es.length == fs.length && Value.attributesWithin es fs
  | .data es, .data fs => Value.eqFields es fs
  | .none, .none => true
  | .str s, .str t => s == t
  | .bytes s, .bytes t => s == t
  | .stamp s, .stamp t => s.eq t
  | .set xs, .set ys => xs.length == ys.length && Value.allAmong xs ys
  | v, w =>
    match v.number?, w.number? with
    | some a, some b => a.eq b
    | _, _ => false
termination_by structural v => v

def Value.eqList : List Value → List Value → Bool
  | [], [] => true
  | x :: xs, y :: ys => x.eq y && Value.eqList xs ys
  | _, _ => false
termination_by structural xs => xs

/-- Every item of the first set has an equal one in the second. -/
def Value.allAmong : List Value → List Value → Bool
  | [], _ => true
  | x :: xs, ys => ys.any (fun y => x.eq y) && Value.allAmong xs ys
termination_by structural xs => xs

/-- Every entry of the first mapping has an equal one in the second. -/
def Value.within : List (Value × Value) → List (Value × Value) → Bool
  | [], _ => true
  | (k, v) :: es, fs =>
    (match fs.find? fun f => k.eq f.1 with
      | some f => v.eq f.2
      | .none => false) && Value.within es fs
termination_by structural es => es

def Value.attributesWithin : List (String × Value) → List (String × Value) → Bool
  | [], _ => true
  | (k, v) :: es, fs =>
    (match fs.find? fun f => k == f.1 with
      | some f => v.eq f.2
      | .none => false) && Value.attributesWithin es fs
termination_by structural es => es

def Value.eqFields : List (String × Value) → List (String × Value) → Bool
  | [], [] => true
  | (k, v) :: es, (l, w) :: fs => k == l && v.eq w && Value.eqFields es fs
  | _, _ => false
termination_by structural es => es

end

instance : BEq Value := ⟨Value.eq⟩

/-- Whether two values are one object wherever they come from: the truth values, `none`, the
integers from −5 to 256, texts of at most one character below `U+0100`, at most one byte, and the
empty tuple exist once. -/
def Value.interned : Value → Value → Bool
  | .none, .none => true
  | .bool a, .bool b => a == b
  | .int a, .int b => a == b && -5 ≤ a && a ≤ 256
  | .str s, .str t => s == t && (s.isEmpty || (s.length == 1 && s.toList.all (·.toNat < 0x100)))
  | .bytes s, .bytes t => s == t && s.length ≤ 1
  | .tuple [], .tuple [] => true
  | _, _ => false

/-- Which object a value is: the object with number `root`, or the part of it at `path`, innermost
index first. -/
structure Origin where
  root : Nat
  path : List Nat := []
  deriving DecidableEq, Repr, Inhabited

/-- The origin of the part with index `i`. -/
def Origin.part (o : Origin) (i : Nat) : Origin := { o with path := i :: o.path }

/-- A value together with its origin. -/
structure Datum where
  value : Value
  origin : Origin
  deriving Repr, Inhabited

/-- Whether one object can be met with both contents. The content of a scalar never changes; that of a
container may. -/
def Value.compatible : Value → Value → Bool
  | .none, .none => true
  | .bool a, .bool b => a == b
  | .int a, .int b => a == b
  | .str s, .str t => s == t
  | .bytes s, .bytes t => s == t
  | .none, _ | .bool _, _ | .int _, _ | .str _, _ | .bytes _, _ => false
  | _, .none | _, .bool _ | _, .int _ | _, .str _ | _, .bytes _ => false
  | _, _ => true

namespace Datum

/-- Whether two data are one object. -/
def same (a b : Datum) : Bool :=
  a.value.interned b.value || (a.origin == b.origin && a.value.compatible b.value)

/-- Equality; a container equals itself whatever it holds. -/
def eq (a b : Datum) : Bool :=
  match a.value, b.value with
  | .none, _ | .bool _, _ | .int _, _ | .float _, _ | .str _, _ | .bytes _, _ => a.value.eq b.value
  | _, _ => a.same b || a.value.eq b.value

/-- Sameness or equality, the test by which containers find their items. -/
def alike (a b : Datum) : Bool := a.same b || a.eq b

/-- The mapping behind a read-only one; anything else is itself. -/
def uncovered (d : Datum) : Datum :=
  match d.value with
  | .view entries => ⟨.map entries, d.origin⟩
  | _ => d

/-- The numbered parts of a datum. -/
def parts (d : Datum) (items : List Value) : List Datum :=
  items.zipIdx.map fun (v, i) => ⟨v, d.origin.part i⟩

end Datum

end Criteria
