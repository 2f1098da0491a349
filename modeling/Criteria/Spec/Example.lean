import Criteria.Spec.Field

/-!
# Query by example

Named values as a condition: every field equals the value given for it. Fields are taken in order,
and without any the condition is `Spec.everything`.
-/

namespace Criteria.Spec

/-- The conjunction of several specifications, from the left. -/
def conjunction (specs : List Spec) : Spec := specs.foldl (join .and) everything

/-- The conjunction of the equalities of named values. -/
def equalities (pairs : List (Value × Datum)) : Build Spec := do
  let leaves ← pairs.mapM fun (field, value) => compareField .eq field value
  return conjunction leaves

/-- The conjunction of the equalities of values given by name. A name is a text, and one of them is
taken. -/
def ofNamed (pairs : List (Value × Datum)) : Build Spec :=
  if pairs.any fun p => p.1.text?.isNone then throw (.fault .argumentNameNotText)
  else if pairs.any fun p => p.1.text? == some "cls" then
    throw (.fault (.repeatedArgument "FilterUtils.by" "cls"))
  else equalities pairs

/-- The pairs whose value is not `none`. -/
def given (pairs : List (Value × Datum)) : List (Value × Datum) :=
  pairs.filter fun p => !p.2.value.isNone

/-- The entries of a mapping, with the values as parts of it. -/
def entriesOf (d : Datum) (entries : List (Value × Value)) : List (Value × Datum) :=
  entries.zipIdx.map fun ((k, v), i) => (k, ⟨v, d.origin.part (2 * i + 1)⟩)

/-- The condition that a mapping of fields to values stands for; `none` is no value. -/
def ofMapping (d : Datum) : Build Spec :=
  match d.value with
  | .none => throw (.misuse .noFilters)
  | .map entries | .view entries => equalities (given (entriesOf d entries))
  | v =>
    match d.attribute? "items" with
    | some part => throw (.fault (.notCallable part.value.typeName))
    | none => throw (.fault (.missingAttribute v.typeName "items"))

/-- The condition that an example object stands for, through its fields or attributes. -/
def ofExample (d : Datum) : Build Spec :=
  match d.value with
  | .none => throw (.misuse .noExample)
  | .record parts | .data parts =>
    let pairs := parts.zipIdx.map fun ((k, v), i) => (Value.str k, Datum.mk v (d.origin.part i))
    equalities (given pairs)
  | _ => throw (.fault .noAttributeTable)

end Criteria.Spec
