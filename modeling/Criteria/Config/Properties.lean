import Criteria.Config.Basic
import Criteria.Eval.Properties
import Criteria.Mongo.FromLambda
import Criteria.Text.Blank
import Criteria.Text.Numeral

/-!
# Properties

A class of properties names the mapping that its fields are read from. `Config.bind` reads each
field through `Config.get`, so overrides and placeholders apply, and reads texts as the type that
the field declares.

* `Field.read` reads a value for a field.
* `Config.fieldValues` collects what is set; a field may be written with hyphens or underscores.
* `Config.evaluationProperties` and `Config.mongoOptions` are the library's own two classes.
-/

namespace Criteria

/-- What the text of a setting is read as. -/
inductive FieldKind where
  | truth
  | whole
  | fraction
  /-- Texts stay as they are. -/
  | other
  deriving DecidableEq, Repr

/-- A field; without a default it must be set. -/
structure Field where
  name : String
  kind : FieldKind
  default : Option Value
  deriving Repr

/-- A class of properties; one without a key cannot be bound. Every field is an argument of its
constructor, which sets the fields and does nothing else. -/
structure PropertiesClass where
  name : String
  key : Option String
  fields : List Field
  deriving Repr

/-- The words that mean true. -/
def truthWords : List String := ["true", "1", "yes", "on"]

/-- Reads a value for a field: only texts are read, any other value is taken as it is. -/
def FieldKind.read (kind : FieldKind) (v : Value) : Except Fault Value :=
  match kind, v with
  | .truth, .str text => .ok (.bool (truthWords.contains (Text.lowerCase (Text.strip text))))
  | .whole, .str text => (Fault.readInteger 10 text).map .int
  | .fraction, .str text => (Fault.readFloat text).map .float
  | _, v => .ok v

/-- The name with hyphens for underscores. -/
def hyphenated (name : String) : String :=
  String.ofList (name.toList.map fun c => if c == '_' then '-' else c)

namespace Config

/-- The key that a field is read from: the spelling with hyphens if the mapping has it. -/
def fieldKey (c : Config) (key name : String) : String :=
  let kebab := hyphenated name
  if (c.entries key).any fun e => e.1.eq (.str kebab) then s!"{key}.{kebab}" else s!"{key}.{name}"

/-- The values that are set for the named fields. -/
def fieldValues (c : Config) (env : Environment) (key : String) :
    List String → Except Fault (List (String × Value))
  | [] => .ok []
  | name :: names => do
    let v ← c.get env (c.fieldKey key name) .none
    let rest ← c.fieldValues env key names
    return if v.isNone then rest else (name, v) :: rest

end Config

/-- The values read for the fields, in order. -/
def PropertiesClass.readAll (cls : PropertiesClass) :
    List (String × Value) → Except Fault (List (String × Value))
  | [] => .ok []
  | (name, v) :: rest => do
    let kind := ((cls.fields.find? (·.name == name)).map (·.kind)).getD .other
    let v ← kind.read v
    return (name, v) :: (← cls.readAll rest)

/-- The instance with the given values: fields that are not given have their defaults. -/
def PropertiesClass.fill (cls : PropertiesClass) (values : List (String × Value)) :
    Except Fault (List (String × Value)) :=
  let given (f : Field) : Option Value := ((values.find? (·.1 == f.name)).map (·.2)).or f.default
  match cls.fields.filter fun f => (given f).isNone with
  | [] => .ok (cls.fields.map fun f => (f.name, (given f).getD .none))
  | missing =>
    .error (.missingArguments (cls.name ++ ".__init__") (missing.map (·.name)))

/-- The instance of a class that a configuration describes. -/
def Config.bind (c : Config) (env : Environment) (cls : PropertiesClass) :
    Except Fault (List (String × Value)) :=
  match cls.key with
  | none => .error (.noSection cls.name)
  | some key => do
    let values ← c.fieldValues env key (cls.fields.map (·.name))
    cls.fill (← cls.readAll values)

/-! ## The library's own classes -/

/-- The class of `EvaluationProperties`. -/
def EvaluationProperties.fieldClass : PropertiesClass where
  name := "EvaluationProperties"
  key := some "speclogic.evaluation"
  fields := [⟨"mapping_access", .truth, some (.bool true)⟩,
    ⟨"missing_member", .other, some (.str "raise")⟩]

/-- The class of `Mongo.Options`. -/
def Mongo.Options.fieldClass : PropertiesClass where
  name := "MongoTranslationProperties"
  key := some "speclogic.translation.mongo"
  fields := [⟨"regex_options", .other, some (.str "")⟩]

namespace Config

/-- How members are read, as configured. -/
def evaluationProperties (c : Config) (env : Environment) : Except Fault EvaluationProperties := do
  let values ← c.bind env EvaluationProperties.fieldClass
  EvaluationProperties.build (values.lookup "mapping_access") (values.lookup "missing_member")

/-- The options of document filters, as configured. -/
def mongoOptions (c : Config) (env : Environment) : Except Fault Mongo.Options := do
  let values ← c.bind env Mongo.Options.fieldClass
  return ⟨(values.lookup "regex_options").getD .none⟩

end Config

end Criteria
