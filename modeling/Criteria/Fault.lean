import Criteria.Text.Numeral
import Criteria.Value.Literal

/-!
# Faults

What goes wrong when an operation meets values that it does not support. `Fault` lists the causes,
`Fault.kind` sorts them, and `Fault.message` words them.
-/

namespace Criteria

/-- The sorts of faults. -/
inductive FaultKind where
  /-- An operation does not support the type of its operand. -/
  | type
  /-- An operand has the right type and no usable value. -/
  | value
  /-- A text holds halves of characters for which there are no bytes, an unusable value too. -/
  | encoding
  /-- An object lacks an attribute. -/
  | attribute
  /-- A mapping lacks a key. -/
  | key
  /-- A sequence is too short. -/
  | index
  /-- A number is too large for its result type. -/
  | overflow
  /-- A query language cannot express an operand. -/
  | clause
  /-- A query language does not know an operation. -/
  | unimplemented
  /-- A called function failed by its own decision, or calls were nested too deeply. -/
  | runtime
  deriving DecidableEq, Repr

/-- Whether faults of the sort are about an unusable value. -/
def FaultKind.isValue : FaultKind → Bool
  | value | encoding => true
  | _ => false

/-- The causes of a failed evaluation. -/
inductive Fault where
  | unordered (symbol left right : String)
  /-- A day has no place among moments. -/
  | unorderedDay
  /-- A moment with an offset and one without are not ordered. -/
  | unorderedOffsets
  | notIterable (typeName : String)
  | notContainer (typeName : String)
  | notSubscriptable (typeName : String)
  | badIndex (container index : String)
  | notCallable (typeName : String)
  | noLength (typeName : String)
  | unhashable (typeName : String)
  | substringOperand (typeName : String)
  | bytesOperand (typeName : String)
  | byteRange
  | missingAttribute (typeName name : String)
  | missingKey (key : Value)
  | unsupportedOperands (symbol left right : String)
  | badOperand (symbol typeName : String)
  | concatenation (left right : String)
  | unusedArguments (format : String)
  | incompleteFormat
  | missingFormatArgument
  | mappingNeeded
  | bytesLikeNeeded
  /-- The character is shown as `shown`. -/
  | unknownConversion (c shown : Char) (index : Nat)
  | conversionOutOfRange
  | notMethodOf (method owner typeName : String)
  | missingArguments (function : String) (names : List String)
  | extraArguments (function : String) (expected given : Nat)
  | argumentCount (function expected : String) (given : Nat)
  | unexpectedArgument (function name : String)
  | repeatedArgument (function name : String)
  | argumentNameNotText
  | wrongCandidate (message : String)
  | notAnIndex
  | badPolicy (text : String)
  | badOperator (v : Value)
  | missingClassAttribute (className name : String)
  | noConstantOrder
  | noClause
  | noClauseItems
  | textExpected
  | integerTooLarge
  | raised (message : String)
  | noAttributeTable
  | invalidValue (message : String)
  | notAPair (index : Nat)
  | badPair (index length : Nat)
  | notAnInteger (base : Nat) (text : String)
  | notANumber (text : String)
  | tooManyDigits (count : Nat)
  | unwritableInteger
  /-- The name of a parameter is asked for its text and is none. -/
  | unwritableName (typeName : String)
  /-- One of the texts that are to be joined is none. -/
  | joinOperand (index : Nat) (typeName : String)
  | unencodable (text : String)
  | emptyText
  | noSuchCharacter
  | characterTooLarge
  | notText (typeName : String)
  | calendar (f : CalendarFault)
  | unresolvedPlaceholder (body : String)
  | nestedPlaceholders (text : String)
  | noSection (className : String)
  | unnamedLogger
  | unboundVariable (name : String)
  | foreignNode
  | tooDeep
  deriving Repr

namespace Fault

def kind : Fault → FaultKind
  | missingAttribute .. | missingClassAttribute .. => .attribute
  | noConstantOrder | noClause => .clause
  | noClauseItems => .unimplemented
  | missingKey _ | unboundVariable _ => .key
  | byteRange | incompleteFormat | unknownConversion .. | invalidValue _ | badPolicy _
  | badOperator _ | badPair ..
  | notAnInteger .. | notANumber _ | tooManyDigits _ | unwritableInteger | unresolvedPlaceholder _
  | nestedPlaceholders _ | noSection _ | noSuchCharacter | calendar _ => .value
  | unencodable _ => .encoding
  | integerTooLarge | characterTooLarge | conversionOutOfRange => .overflow
  | emptyText => .index
  | raised _ | tooDeep => .runtime
  | _ => .type

/-- A list of names as a sentence has it: `a`, `a and b`, `a, b, and c`. -/
def enumerate : List String → String
  | [] => ""
  | [a] => a
  | [a, b] => a ++ " and " ++ b
  | names => ", ".intercalate names.dropLast ++ ", and " ++ names.getLastD ""

/-- A number in base sixteen. -/
def hexadecimal (n : Nat) : String := String.ofList (Nat.toDigits 16 n)

/-- Where a text cannot be written in bytes: the first half without any and those that follow it,
with the number of characters before them. -/
def unencodablePart (text : String) : Nat × List Char :=
  let first := text.toList.findIdx fun c => !Text.hasBytes c
  (first, (text.toList.drop first).takeWhile fun c => Text.isHalf (Text.codePoint c))

def message : Fault → String
  | unordered symbol left right =>
    s!"'{symbol}' not supported between instances of '{left}' and '{right}'"
  | unorderedDay => "can't compare datetime.datetime to datetime.date"
  | unorderedOffsets => "can't compare offset-naive and offset-aware datetimes"
  | notIterable t => s!"'{t}' object is not iterable"
  | notContainer t => s!"argument of type '{t}' is not iterable"
  | notSubscriptable t => s!"'{t}' object is not subscriptable"
  | badIndex container index =>
    if container = "str" then s!"string indices must be integers, not '{index}'"
    else if container = "bytes" then s!"byte indices must be integers or slices, not {index}"
    else s!"{container} indices must be integers or slices, not {index}"
  | notCallable t => s!"'{t}' object is not callable"
  | noLength t => s!"object of type '{t}' has no len()"
  | unhashable t => s!"unhashable type: '{t}'"
  | substringOperand t => s!"'in <string>' requires string as left operand, not {t}"
  | bytesOperand t => s!"a bytes-like object is required, not '{t}'"
  | byteRange => "byte must be in range(0, 256)"
  | missingAttribute t name => s!"'{t}' object has no attribute '{name}'"
  | missingKey key => key.literal
  | unsupportedOperands symbol left right =>
    s!"unsupported operand type(s) for {symbol}: '{left}' and '{right}'"
  | badOperand symbol t => s!"bad operand type for unary {symbol}: '{t}'"
  | concatenation left right =>
    if left = "bytes" then s!"can't concat {right} to bytes"
    else s!"can only concatenate {left} (not \"{right}\") to {left}"
  | unusedArguments format => s!"not all arguments converted during {format} formatting"
  | incompleteFormat => "incomplete format"
  | missingFormatArgument => "not enough arguments for format string"
  | mappingNeeded => "format requires a mapping"
  | bytesLikeNeeded =>
    "%b requires a bytes-like object, or an object that implements __bytes__, not 'int'"
  | unknownConversion c shown index =>
    let code := hexadecimal (Text.codePoint c)
    s!"unsupported format character '{shown}' (0x{code}) at index {index}"
  | conversionOutOfRange => "character argument not in range(0x110000)"
  | notMethodOf method owner t =>
    s!"descriptor '{method}' for '{owner}' objects doesn't apply to a '{t}' object"
  | missingArguments function names =>
    let quoted := names.map fun n => s!"'{n}'"
    let plural := if names.length = 1 then "" else "s"
    s!"{function}() missing {names.length} required positional argument{plural}: "
      ++ enumerate quoted
  | extraArguments function expected given =>
    let plural := if expected = 1 then "" else "s"
    let verb := if given = 1 then "was" else "were"
    s!"{function}() takes {expected} positional argument{plural} but {given} {verb} given"
  | argumentCount function expected given =>
    s!"{function}() takes {expected} ({given} given)"
  | unexpectedArgument function name =>
    s!"{function}() got an unexpected keyword argument '{name}'"
  | repeatedArgument function name =>
    s!"{function}() got multiple values for argument '{name}'"
  | argumentNameNotText => "keywords must be strings"
  | integerTooLarge => "int too large to convert to float"
  | raised message => message
  | wrongCandidate message => message
  | notAnIndex => "slice indices must be integers or None or have an __index__ method"
  | missingClassAttribute c name => s!"type object '{c}' has no attribute '{name}'"
  | noConstantOrder => "only equality and sameness can be tested against null, true and false"
  | noClause => "not a clause"
  | noClauseItems => "Operator 'getitem' is not supported on this expression"
  | textExpected => "String value expected when autoescape=True"
  | badOperator v => s!"{v.literal} is not a valid CompareOperator"
  | badPolicy text => s!"missing_member must be one of ('raise', 'none'), got '{text}'"
  | noAttributeTable => "vars() argument must have __dict__ attribute"
  | invalidValue message => message
  | notAPair i => s!"cannot convert dictionary update sequence element #{i} to a sequence"
  | badPair i n => s!"dictionary update sequence element #{i} has length {n}; 2 is required"
  | notAnInteger base t =>
    s!"invalid literal for int() with base {base}: "
      ++ String.ofList ((Value.str t).literal.toList.take 200)
  | notANumber t => s!"could not convert string to float: {(Value.str t).literal}"
  | tooManyDigits n =>
    "Exceeds the limit (4300 digits) for integer string conversion: "
      ++ s!"value has {n} digits; use sys.set_int_max_str_digits() to increase the limit"
  | unwritableInteger =>
    "Exceeds the limit (4300 digits) for integer string conversion; "
      ++ "use sys.set_int_max_str_digits() to increase the limit"
  | unwritableName t => s!"__str__ returned non-string (type {t})"
  | joinOperand i t => s!"sequence item {i}: expected str instance, {t} found"
  | unencodable text =>
    match unencodablePart text with
    | (i, [c]) =>
      let code := hexadecimal (Text.codePoint c)
      s!"'utf-8' codec can't encode character '\\u{code}' in position {i}: surrogates not allowed"
    | (i, run) =>
      let last := i + run.length - 1
      s!"'utf-8' codec can't encode characters in position {i}-{last}: surrogates not allowed"
  | emptyText => "string index out of range"
  | noSuchCharacter => "chr() arg not in range(0x110000)"
  | characterTooLarge => "Python int too large to convert to C int"
  | notText t => s!"expected string or bytes-like object, got '{t}'"
  | calendar f => f.message
  | unresolvedPlaceholder body => "Cannot resolve placeholder '$\x7b" ++ body ++ "\x7d'"
  | nestedPlaceholders t =>
    s!"Placeholders in '{t}' nest too deeply; check for circular references"
  | noSection c => s!"{c} is not decorated with @config_properties"
  | unnamedLogger => "A logger name must be a string"
  | unboundVariable name => name
  | foreignNode => "not a node of the grammar"
  | tooDeep => "maximum recursion depth exceeded"

/-- The integer that a text denotes in a base. -/
def readInteger (base : Nat) (text : String) : Except Fault Int :=
  match Text.readInteger base text with
  | .ok n => .ok n
  | .error .malformed => .error (.notAnInteger base text)
  | .error (.tooLong digits) => .error (.tooManyDigits digits)

/-- The double that a text denotes. -/
def readFloat (text : String) : Except Fault Binary64 :=
  match Text.readFloat? text with
  | some x => .ok x
  | none => .error (.notANumber text)

end Fault

/-- Why the value cannot be written, if it cannot. -/
def Value.fault? (v : Value) : Option Fault :=
  if v.isWritable then Option.none else some .unwritableInteger

/-- The plain text of the value; an integer of too many digits has none. -/
def Value.written (v : Value) : Except Fault String :=
  if v.isWritable then .ok v.text else .error .unwritableInteger

end Criteria
