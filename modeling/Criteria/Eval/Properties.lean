import Criteria.Eval.Run
import Criteria.Value.Access

/-!
# Reading members

`EvaluationProperties` says how a member access reads an item: whether mappings are read by key
(otherwise only by attribute), and what an absent member evaluates to.
-/

namespace Criteria

/-- What becomes of an absent member. -/
inductive MissingMember where
  /-- It is a fault. -/
  | fails
  /-- It evaluates to `none`. -/
  | isNone
  deriving DecidableEq, Repr, Inhabited

namespace MissingMember

def word : MissingMember → String
  | fails => "raise"
  | isNone => "none"

/-- The policy that a value names. -/
def ofValue (v : Value) : Except Fault MissingMember :=
  match v with
  | .str "raise" => .ok fails
  | .str "none" => .ok isNone
  | v => .error (if v.isWritable then .badPolicy v.text else .unwritableInteger)

end MissingMember

/-- How members are read. Any value may say whether mappings are read by key; its truth counts. -/
structure EvaluationProperties where
  mappingAccess : Value
  missingMember : MissingMember
  deriving Repr

namespace EvaluationProperties

/-- Mappings are read by key, and an absent member is a fault. -/
def default : EvaluationProperties := ⟨.bool true, .fails⟩

instance : Inhabited EvaluationProperties := ⟨default⟩

/-- The properties with the given settings; one that is not given has its default. -/
def build (mappingAccess missingMember : Option Value) : Except Fault EvaluationProperties := do
  let policy ← match missingMember with
    | some v => MissingMember.ofValue v
    | none => .ok default.missingMember
  return ⟨mappingAccess.getD default.mappingAccess, policy⟩

/-- What an absent member evaluates to. -/
def absent (props : EvaluationProperties) (f : Fault) : Except Fault Item :=
  match props.missingMember with
  | .fails => .error f
  | .isNone => .ok Item.none

/-- The member of an item. -/
def read (props : EvaluationProperties) (name : String) : Item → Except Fault Item
  | .closure .. => props.absent (.missingAttribute "function" name)
  | .datum d =>
    if props.mappingAccess.truthy && d.value.mapping?.isSome then
      match d.lookup? name with
      | some part => .ok (.datum part)
      | none => props.absent (.missingKey (.str name))
    else
      match d.attribute? name with
      | some part => .ok (.datum part)
      | none => props.absent (.missingAttribute d.value.typeName name)

end EvaluationProperties

end Criteria
