import Criteria.Spec.Basic

/-!
# Conditions on one field

The leaves that compare one field with constants. A field is named by a text that may be a dotted
path; every leaf has a parameter of its own.
-/

namespace Criteria.Spec

/-- The fault of naming a field by a value, which the message shows as far as it can be written. -/
def badName (field : Value) : Error :=
  if field.isWritable then .misuse (.badFieldName field.literal) else .fault .unwritableInteger

/-- The name of a field: any text but the empty one. -/
def fieldName (field : Value) : Except Error String :=
  match field with
  | .str s => if s.isEmpty then .error (badName field) else .ok s
  | v => .error (badName v)

/-- The leaf whose body is built from the accessed field. -/
def onField (field : Value) (build : Expr → Expr) : Build Spec := do
  let name ← fieldName field
  let p ← Build.freshParam
  return tree ⟨.param p, build (Expr.path (.param p) name)⟩

/-- The field compared with a constant. -/
def compareField (op : CompareOp) (field : Value) (constant : Datum) : Build Spec :=
  onField field fun m => .compare op m (.const constant)

/-- The field is one of the items of a collection, which is read once, now. -/
def oneOf (field : Value) (collection : Datum) : Build Spec :=
  match collection.iterate with
  | .error f => throw (.fault f)
  | .ok items => do
    let kept := match collection.value with
      | .tuple _ => collection
      | _ => ⟨.tuple (items.map (·.value)), collection.origin⟩
    compareField .isIn field kept

/-- The field is between two constants, both included. -/
def between (field : Value) (low high : Datum) : Build Spec :=
  onField field fun m => .and (.compare .ge m (.const low)) (.compare .le m (.const high))

/-- The field is, or is not, `none`. -/
def nullField (op : CompareOp) (field : Value) : Build Spec :=
  compareField op field ⟨.none, ⟨0, []⟩⟩

end Criteria.Spec
