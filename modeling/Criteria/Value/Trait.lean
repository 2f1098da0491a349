import Criteria.Value.Basic

/-!
# What every value of a type has

Besides the parts that an object was given, a value has the traits of its type: a number has a real
and an imaginary part, a date its year, month and day, and every value knows its type and the operations
of it. Nothing here looks into an operation, into a description of a type or into a difference of times,
so these are `Value.thing`s.

* `Value.operations` lists the names of the operations, `Value.symbols` those that stand behind the
  operators.
* `Value.trait?` is the trait with a name.
-/

namespace Criteria.Value

/-- The operations on texts and on bytes alike. -/
def textOperations : List String :=
  ["capitalize", "center", "count", "endswith", "expandtabs", "find", "index", "isalnum", "isalpha",
    "isascii", "isdigit", "islower", "isspace", "istitle", "isupper", "join", "ljust", "lower",
    "lstrip", "maketrans", "partition", "removeprefix", "removesuffix", "replace", "rfind",
    "rindex", "rjust", "rpartition", "rsplit", "rstrip", "split", "splitlines", "startswith",
    "strip", "swapcase", "title", "translate", "upper", "zfill"]

/-- The operations on days. -/
def dateOperations : List String :=
  ["ctime", "fromisocalendar", "fromisoformat", "fromordinal", "fromtimestamp", "isocalendar",
    "isoformat", "isoweekday", "replace", "strftime", "timetuple", "today", "toordinal", "weekday"]

/-- The operations on times of day. -/
def clockOperations : List String :=
  ["dst", "fromisoformat", "isoformat", "replace", "strftime", "tzname", "utcoffset"]

/-- The operations on moments that neither days nor times of day have. -/
def momentOperations : List String :=
  ["astimezone", "combine", "date", "now", "strptime", "time", "timestamp", "timetz",
    "utcfromtimestamp", "utcnow", "utctimetuple"]

/-- The operations on sets. -/
def setOperations : List String :=
  ["add", "clear", "copy", "difference", "difference_update", "discard", "intersection",
    "intersection_update", "isdisjoint", "issubset", "issuperset", "pop", "remove",
    "symmetric_difference", "symmetric_difference_update", "union", "update"]

/-- The operations that every type has. -/
def commonOperations : List String :=
  ["__dir__", "__format__", "__getstate__", "__init_subclass__", "__new__", "__reduce__",
    "__reduce_ex__", "__sizeof__", "__subclasshook__"]

/-- The names of the operations of the value's own type. -/
def operations : Value → List String
  | str _ =>
    ["casefold", "encode", "format", "format_map", "isdecimal", "isidentifier", "isnumeric",
      "isprintable", "__getnewargs__"] ++ textOperations
  | bytes _ => ["decode", "fromhex", "hex", "__bytes__", "__getnewargs__"] ++ textOperations
  | bool _ | int _ =>
    ["as_integer_ratio", "bit_count", "bit_length", "conjugate", "from_bytes", "to_bytes",
      "__ceil__", "__floor__", "__getnewargs__", "__round__", "__trunc__"]
  | float _ =>
    ["as_integer_ratio", "conjugate", "fromhex", "hex", "is_integer", "__ceil__", "__floor__",
      "__getformat__", "__getnewargs__", "__round__", "__trunc__"]
  | list _ | outer false _ =>
    ["append", "clear", "copy", "count", "extend", "index", "insert", "pop", "remove", "reverse",
      "sort", "__class_getitem__", "__getitem__", "__reversed__"]
  | tuple _ => ["count", "index", "__class_getitem__", "__getnewargs__"]
  | map _ | outer true _ =>
    ["clear", "copy", "fromkeys", "get", "items", "keys", "pop", "popitem", "setdefault", "update",
      "values", "__class_getitem__", "__contains__", "__getitem__", "__reversed__"]
  | view _ => ["copy", "get", "items", "keys", "values", "__class_getitem__", "__reversed__"]
  | set _ => setOperations ++ ["__class_getitem__", "__contains__"]
  | stamp (.date _) => dateOperations
  | stamp (.time _) => clockOperations
  | stamp (.moment ..) => dateOperations ++ clockOperations ++ momentOperations
  | none | record _ | data _ | thing _ => []

/-- The operations behind the operators that every value answers, be it with a refusal. -/
def commonSymbols : List String :=
  ["__delattr__", "__eq__", "__ge__", "__getattribute__", "__gt__", "__hash__", "__init__", "__le__",
    "__lt__", "__ne__", "__repr__", "__setattr__", "__str__"]

/-- The operations behind the operators on numbers of either kind. -/
def numberSymbols : List String :=
  ["__abs__", "__add__", "__bool__", "__divmod__", "__float__", "__floordiv__", "__int__", "__mod__",
    "__mul__", "__neg__", "__pos__", "__pow__", "__radd__", "__rdivmod__", "__rfloordiv__",
    "__rmod__", "__rmul__", "__rpow__", "__rsub__", "__rtruediv__", "__sub__", "__truediv__"]

/-- The names of the operations that stand behind the operators on the value's own type. -/
def symbols : Value → List String
  | none => ["__bool__"]
  | bool _ | int _ =>
    numberSymbols ++
      ["__and__", "__index__", "__invert__", "__lshift__", "__or__", "__rand__", "__rlshift__",
        "__ror__", "__rrshift__", "__rshift__", "__rxor__", "__xor__"]
  | float _ => numberSymbols
  | str _ | bytes _ =>
    ["__add__", "__contains__", "__getitem__", "__iter__", "__len__", "__mod__", "__mul__", "__rmod__",
      "__rmul__"]
  | list _ | outer false _ =>
    ["__add__", "__contains__", "__delitem__", "__iadd__", "__imul__", "__iter__", "__len__", "__mul__",
      "__rmul__", "__setitem__"]
  | tuple _ =>
    ["__add__", "__contains__", "__getitem__", "__iter__", "__len__", "__mul__", "__rmul__"]
  | map _ | outer true _ =>
    ["__delitem__", "__ior__", "__iter__", "__len__", "__or__", "__ror__", "__setitem__"]
  | view _ => ["__contains__", "__getitem__", "__ior__", "__iter__", "__len__", "__or__", "__ror__"]
  | set _ =>
    ["__and__", "__iand__", "__ior__", "__isub__", "__iter__", "__ixor__", "__len__", "__or__",
      "__rand__", "__ror__", "__rsub__", "__rxor__", "__sub__", "__xor__"]
  | stamp (.date _) | stamp (.moment ..) => ["__add__", "__radd__", "__rsub__", "__sub__"]
  | stamp (.time _) | record _ | data _ | thing _ => []

/-- The part of a number with a name. -/
def numberPart? (v : Value) (name : String) : Option Value :=
  match v.number?, name with
  | some (.int n), "real" | some (.int n), "numerator" => some (int n)
  | some (.int _), "imag" => some (int 0)
  | some (.int _), "denominator" => some (int 1)
  | some (.float x), "real" => some (float x)
  | some (.float _), "imag" => some (float (Binary64.zero false))
  | _, _ => Option.none

/-- The part of a day with a name. -/
def datePart? (d : Date) : String → Option Value
  | "year" => some (int d.year)
  | "month" => some (int d.month)
  | "day" => some (int d.day)
  | _ => Option.none

/-- The part of a time of day with a name; `offset` is its distance from universal time. -/
def clockPart? (t : Clock) (offset : Option Int) : String → Option Value
  | "hour" => some (int t.hour)
  | "minute" => some (int t.minute)
  | "second" => some (int t.second)
  | "microsecond" => some (int t.microsecond)
  | "fold" => some (int 0)
  | "tzinfo" => some (if offset.isSome then thing "datetime.timezone" else none)
  | _ => Option.none

/-- The earliest and the latest stamp of the kind of a stamp. -/
def stampRange : Stamp → Stamp × Stamp
  | .date _ => (.date ⟨1, 1, 1⟩, .date ⟨9999, 12, 31⟩)
  | .time _ => (.time ⟨0, 0, 0, 0⟩, .time ⟨23, 59, 59, 999999⟩)
  | .moment .. =>
    (.moment ⟨1, 1, 1⟩ ⟨0, 0, 0, 0⟩ Option.none,
      .moment ⟨9999, 12, 31⟩ ⟨23, 59, 59, 999999⟩ Option.none)

/-- The part of a stamp with a name. -/
def stampPart? (s : Stamp) (name : String) : Option Value :=
  match s, name with
  | s, "min" => some (stamp (stampRange s).1)
  | s, "max" => some (stamp (stampRange s).2)
  | _, "resolution" => some (thing "datetime.timedelta")
  | .date d, name => datePart? d name
  | .time t, name => clockPart? t Option.none name
  | .moment d t offset, name => (datePart? d name).or (clockPart? t offset name)

/-- What an object of either sort has besides the named parts it was given. -/
def objectPart? (v : Value) (name : String) : Option Value :=
  match v, name with
  | record parts, "__dict__" => some (map (parts.map fun (k, v) => (str k, v)))
  | data parts, "__slots__" | data parts, "__match_args__" => some (tuple (parts.map fun p => str p.1))
  | data _, "__module__" => some (thing "str")
  | data _, "__annotations__" | data _, "__dataclass_fields__" => some (thing "dict")
  | data _, "__dataclass_params__" => some (thing "_DataclassParams")
  | data _, "__eq__" | data _, "__init__" | data _, "__repr__" => some (thing "method")
  | _, _ => Option.none

/-- Whether the value's type has no hash. -/
def isMutable : Value → Bool
  | list _ | map _ | view _ | record _ | data _ | set _ | outer .. => true
  | _ => false

/-- What every type says about itself: its own type, a description, and whether it has a hash. -/
def typePart? (v : Value) (name : String) : Option Value :=
  match v, name with
  | _, "__class__" => some (thing "type")
  | none, "__doc__" | view _, "__doc__" => some none
  | _, "__doc__" => some (thing "str")
  | v, "__hash__" => if v.isMutable then some none else Option.none
  | _, _ => Option.none

/-- The operation of the value with a name. -/
def operation? (v : Value) (name : String) : Option Value :=
  if (v.operations ++ commonOperations).contains name then some (thing "builtin_function_or_method")
  else if (v.symbols ++ commonSymbols).contains name then some (thing "method-wrapper")
  else Option.none

/-- The trait of the value with a name. -/
def trait? (v : Value) (name : String) : Option Value :=
  let stampPart := match v with
    | stamp s => stampPart? s name
    | _ => Option.none
  (v.numberPart? name).or <| stampPart.or <| (v.objectPart? name).or <| (v.typePart? name).or <|
    v.operation? name

/-- The index of a trait among the parts of the value: a new one, after all others. -/
def traitIndex : Value → Nat
  | list items | tuple items | set items => items.length
  | map entries | view entries => 2 * entries.length
  | record parts | data parts => parts.length
  | str s => s.length
  | bytes b => b.length
  | _ => 0

end Criteria.Value
