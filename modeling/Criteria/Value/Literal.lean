import Criteria.Decimal.Shortest
import Criteria.Text.Numeral
import Criteria.Text.Quoted
import Criteria.Value.Basic

/-!
# The written form of values

`Value.literal` writes a value so that texts are quoted and nested values can be told apart;
`Value.text` is the plain form, in which a text stands for itself. `Value.isWritable` says whether
either form exists.
-/

namespace Criteria

/-- Integers are written in decimal. -/
def intLiteral (n : Int) : String := if n < 0 then "-" ++ toString n.natAbs else toString n.natAbs

mutual

/-- The literal that denotes the value. -/
def Value.literal : Value → String
  | .none => "None"
  | .bool b => if b then "True" else "False"
  | .int n => intLiteral n
  | .float x => x.text
  | .str s => Text.quote s
  | .bytes b => Text.quoteBytes b
  | .list items => "[" ++ ", ".intercalate (Value.literals items) ++ "]"
  | .tuple items =>
    match Value.literals items with
    | [one] => "(" ++ one ++ ",)"
    | all => "(" ++ ", ".intercalate all ++ ")"
  | .map entries => "\x7b" ++ ", ".intercalate (Value.entryLiterals entries) ++ "\x7d"
  | .view entries =>
    "mappingproxy(\x7b" ++ ", ".intercalate (Value.entryLiterals entries) ++ "\x7d)"
  | .record parts => "namespace(" ++ ", ".intercalate (Value.attributeLiterals parts) ++ ")"
  | .data parts => "Data(" ++ ", ".intercalate (Value.attributeLiterals parts) ++ ")"
  | .stamp s => s.literal
  | .set items =>
    match Value.literals items with
    | [] => "set()"
    | all => "\x7b" ++ ", ".intercalate all ++ "\x7d"
  | .outer isMapping _ => if isMapping then "\x7b...\x7d" else "[...]"
  | .thing t => "<" ++ t ++ ">"

def Value.literals : List Value → List String
  | [] => []
  | v :: vs => v.literal :: Value.literals vs

def Value.entryLiterals : List (Value × Value) → List String
  | [] => []
  | (k, v) :: es => (k.literal ++ ": " ++ v.literal) :: Value.entryLiterals es

def Value.attributeLiterals : List (String × Value) → List String
  | [] => []
  | (k, v) :: es => (k ++ "=" ++ v.literal) :: Value.attributeLiterals es

end

/-- The plain form: a text is itself, a date or time has its usual form, a read-only mapping looks
like a mapping, and everything else is its literal. -/
def Value.text : Value → String
  | .str s => s
  | .stamp s => s.text
  | .view entries => (Value.map entries).literal
  | v => v.literal

mutual

/-- Whether the value can be written: an integer of more than `Text.digitLimit` digits cannot. -/
def Value.isWritable : Value → Bool
  | .int n => n.natAbs < Nat.pow 10 Text.digitLimit
  | .list items | .tuple items | .set items => Value.areWritable items
  | .map entries | .view entries => Value.entriesWritable entries
  | .record parts | .data parts => Value.attributesWritable parts
  | _ => true

def Value.areWritable : List Value → Bool
  | [] => true
  | v :: vs => v.isWritable && Value.areWritable vs

def Value.entriesWritable : List (Value × Value) → Bool
  | [] => true
  | (k, v) :: es => k.isWritable && v.isWritable && Value.entriesWritable es

def Value.attributesWritable : List (String × Value) → Bool
  | [] => true
  | (_, v) :: es => v.isWritable && Value.attributesWritable es

end

end Criteria
