import Criteria.Config.Properties

/-!
# Checked properties

A checked class accepts more spellings than `Config.bind` reads, and refuses every value that is
not of the declared type. All fields are checked before the outcome is known, so each unfit field is
reported.

* `CheckedKind.read` reads a value or says what is wrong with it.
* `Config.bindChecked` binds a checked class.

Checked classes are pydantic models, whose code is not part of this. Its table of conversions, in the mode
that is not strict, is assumed: an integer is read from an integer, a truth value, a double without a
fraction, or a text of at most 4300 digits; a truth value from a truth value, from 0 and 1, and from the
documented words in any letter case; bytes are read as the text they encode; fields without a value have
their defaults, and one error is reported for each field that cannot be read.
-/

namespace Criteria

/-- The declared types of checked fields. -/
inductive CheckedKind where
  | truth
  | whole
  deriving DecidableEq, Repr

/-- What is wrong with a value. -/
inductive Issue where
  | intType
  | intParsing
  | intParsingSize
  | intFromFloat
  | finiteNumber
  | boolType
  | boolParsing
  deriving DecidableEq, Repr

def Issue.code : Issue → String
  | intType => "int_type"
  | intParsing => "int_parsing"
  | intParsingSize => "int_parsing_size"
  | intFromFloat => "int_from_float"
  | finiteNumber => "finite_number"
  | boolType => "bool_type"
  | boolParsing => "bool_parsing"

structure CheckedField where
  name : String
  kind : CheckedKind
  default : Value
  deriving Repr

structure CheckedClass where
  name : String
  key : String
  fields : List CheckedField
  deriving Repr

namespace CheckedKind

/-- A blank in the narrow sense: white space without the information separators. -/
def isSpace (c : Char) : Bool := Text.isBlank c && !(0x1c ≤ c.toNat && c.toNat ≤ 0x1f)

/-- ASCII digits with single underscores between them. -/
def asciiDigits? (cs : List Char) : Option Nat :=
  match Text.digitRun 10 false cs with
  | ([], _) => none
  | (ds, rest) =>
    if rest.isEmpty && cs.all (·.toNat < 0x80) then some (Text.ofDigits 10 ds) else none

/-- An integer as text: blanks around, a sign, digits, and a fraction of zeros. -/
def readWhole (text : String) : Except Issue Int :=
  let (negative, body) := Text.readSign (Text.trimList isSpace text.toList)
  let whole := body.takeWhile (· != '.')
  let zeros := (body.dropWhile (· != '.')).drop 1
  if Text.digitLimit < whole.length then .error .intParsingSize
  else if zeros.all (· == '0') then
    match asciiDigits? whole with
    | some n => .ok (if negative then -(n : Int) else n)
    | none => .error .intParsing
  else .error .intParsing

/-- The words for truth values. -/
def readTruth (text : String) : Except Issue Bool :=
  let word := String.ofList (text.toList.map Char.toLower)
  if ["1", "t", "true", "y", "yes", "on"].contains word then .ok true
  else if ["0", "f", "false", "n", "no", "off"].contains word then .ok false
  else .error .boolParsing

/-- The text that bytes encode. -/
def decode? (b : List UInt8) : Option String := String.fromUTF8? ⟨b.toArray⟩

/-- Reads a value as the declared type. -/
def read : CheckedKind → Value → Except Issue Value
  | whole, .int n => .ok (.int n)
  | whole, .bool b => .ok (.int (if b then 1 else 0))
  | whole, .str text => (readWhole text).map .int
  | whole, .bytes b =>
    match decode? b with
    | some text => (readWhole text).map .int
    | none => .error .intParsing
  | whole, .float x =>
    match x.view with
    | .finite .. =>
      match x.toInt? with
      | some n => .ok (.int n)
      | none => .error .intFromFloat
    | _ => .error .finiteNumber
  | whole, _ => .error .intType
  | truth, .bool b => .ok (.bool b)
  | truth, .str text => (readTruth text).map .bool
  | truth, .bytes b =>
    match decode? b with
    | some text => (readTruth text).map .bool
    | none => .error .boolParsing
  | truth, .int n =>
    if n = 0 then .ok (.bool false) else if n = 1 then .ok (.bool true) else .error .boolParsing
  | truth, .float x =>
    match x.toInt? with
    | some 0 => .ok (.bool false)
    | some 1 => .ok (.bool true)
    | some _ => .error .boolParsing
    | none => .error .boolType
  | truth, _ => .error .boolType

end CheckedKind

/-- Why a checked class could not be bound. -/
inductive BindError where
  | fault (f : Fault)
  | invalid (cls : CheckedClass) (issues : List (String × Issue))
  deriving Repr

/-- The first line about unfit values. -/
def CheckedClass.complaint (cls : CheckedClass) : String :=
  s!"Invalid configuration for {cls.name} (prefix='{cls.key}'):"

/-- The outcome for each field: its value, or what is wrong. -/
def CheckedClass.outcomes (cls : CheckedClass) (values : List (String × Value)) :
    List (String × Except Issue Value) :=
  cls.fields.map fun f =>
    (f.name, match values.lookup f.name with
      | some v => f.kind.read v
      | none => .ok f.default)

/-- The instance of a checked class that a configuration describes. -/
def Config.bindChecked (c : Config) (env : Environment) (cls : CheckedClass) :
    Except BindError (List (String × Value)) :=
  match c.fieldValues env cls.key (cls.fields.map (·.name)) with
  | .error f => .error (.fault f)
  | .ok values =>
    let outcomes := cls.outcomes values
    let issues := outcomes.filterMap fun (name, r) =>
      match r with
      | .error issue => some (name, issue)
      | .ok _ => none
    if issues.isEmpty then
      .ok (outcomes.filterMap fun (name, r) => r.toOption.map (name, ·))
    else .error (.invalid cls issues)

end Criteria
