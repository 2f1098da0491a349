import Criteria.Calendar.Stamp
import Criteria.Decimal.Number

/-!
# Values

The data that criteria are evaluated on, that constants hold and that settings give: scalars,
sequences, mappings, sets and objects with named attributes.

* `Value` is the type; `Value.mapping?` is the one view through which both kinds of mapping are
  read, `Value.number?` the one for truth values, integers and doubles.
* `Value.truthy` is the truth of a value in a boolean position.
* `Value.typeName` and `Value.className` are the names that messages use.
-/

namespace Criteria

/-- A piece of data. The entries of a mapping keep the order in which they were added. -/
inductive Value where
  | none
  | bool (b : Bool)
  | int (n : Int)
  | float (x : Binary64)
  | str (s : String)
  | bytes (b : List UInt8)
  | list (items : List Value)
  | tuple (items : List Value)
  /-- A mapping. -/
  | map (entries : List (Value × Value))
  /-- A mapping that can only be read. -/
  | view (entries : List (Value × Value))
  /-- An object with freely chosen attributes. -/
  | record (attributes : List (String × Value))
  /-- An instance of a class with a fixed list of fields. -/
  | data (fields : List (String × Value))
  /-- A date or a time. -/
  | stamp (s : Stamp)
  /-- A set; `items` is the order in which it is written. -/
  | set (items : List Value)
  /-- A mapping or list in which the value stands, met again: `levels` further out than the nearest
  one. -/
  | outer (isMapping : Bool) (levels : Nat)
  /-- Something of which only the type is known. -/
  | thing (typeName : String)
  deriving Repr, Inhabited

namespace Value

/-- The number that a truth value, an integer or a double is. -/
def number? : Value → Option Number
  | bool b => some (.int (if b then 1 else 0))
  | int n => some (.int n)
  | float x => some (.float x)
  | _ => Option.none

/-- The entries of a mapping of either kind. -/
def mapping? : Value → Option (List (Value × Value))
  | map entries | view entries => some entries
  | _ => Option.none

/-- The named parts of an object. -/
def attributes? : Value → Option (List (String × Value))
  | record parts | data parts => some parts
  | _ => Option.none

/-- Whether the value counts as true: zero, the empty text, the empty collections and `none` do
not. -/
def truthy : Value → Bool
  | none => false
  | bool b => b
  | int n => n != 0
  | float x => !x.isZero
  | str s => !s.isEmpty
  | bytes b => !b.isEmpty
  | list items | tuple items => !items.isEmpty
  | map entries | view entries => !entries.isEmpty
  | set items => !items.isEmpty
  | record _ | data _ | stamp _ | outer .. | thing _ => true

/-- The type's name in messages about an operation that the type does not support. -/
def typeName : Value → String
  | none => "NoneType"
  | bool _ => "bool"
  | int _ => "int"
  | float _ => "float"
  | str _ => "str"
  | bytes _ => "bytes"
  | list _ => "list"
  | tuple _ => "tuple"
  | map _ => "dict"
  | view _ => "mappingproxy"
  | record _ => "types.SimpleNamespace"
  | data _ => "Data"
  | stamp s => "datetime." ++ s.className
  | set _ => "set"
  | outer isMapping _ => if isMapping then "dict" else "list"
  | thing t => t

/-- The type's unqualified name. -/
def className : Value → String
  | record _ => "SimpleNamespace"
  | stamp s => s.className
  | v => v.typeName

/-- Whether the value is `none`. -/
def isNone : Value → Bool
  | none => true
  | _ => false

/-- The text that the value is. -/
def text? : Value → Option String
  | str s => some s
  | _ => Option.none

/-- The first entry that satisfies `p`, with its position. -/
def findEntry? {α β : Type} (p : α → Bool) (entries : List (α × β)) : Option (Nat × β) :=
  (entries.zipIdx.find? fun e => p e.1.1).map fun e => (e.2, e.1.2)

end Value

end Criteria
