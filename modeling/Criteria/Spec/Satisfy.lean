import Criteria.Eval.Compile
import Criteria.Spec.Basic

/-!
# Deciding specifications

`Spec.satisfied` decides a specification on one entity from scratch; `CompiledSpec` compiles it once
and is then used on any number of them.
-/

namespace Criteria

/-- A specification with its compiled condition. -/
structure CompiledSpec where
  spec : Spec
  predicate : Compiled

namespace Spec

/-- The specification, compiled. -/
def compile (properties : EvaluationProperties) (s : Spec) : Build CompiledSpec := do
  let lambda ← s.toLambda
  let predicate ← lambda.toExpr.compile properties
  return ⟨s, predicate⟩

/-- Whether the entity satisfies the specification. Numbering goes on where the world left off. -/
def satisfied (host : Host) (s : Spec) (entity : Item) : ExceptT Error (StateM World) Bool :=
  fun w =>
    match (s.compile .default).run w.next with
    | .error e => (.error e, w)
    | .ok (c, next) =>
      match (c.predicate.call host entity).run { w with next } with
      | (.ok i, w') => (.ok i.truthy, w')
      | (.error f, w') => (.error (.fault f), w')

end Spec

namespace CompiledSpec

/-- Whether the entity satisfies the condition. -/
def test (host : Host) (c : CompiledSpec) (entity : Item) : Run Bool := do
  return (← c.predicate.call host entity).truthy

/-- The candidates that satisfy the condition, in their order. -/
def filter (host : Host) (c : CompiledSpec) : List Item → Run (List Item)
  | [] => return []
  | x :: xs => do
    let holds ← c.test host x
    let rest ← filter host c xs
    return if holds then x :: rest else rest

/-- The number of candidates that satisfy the condition. -/
def count (host : Host) (c : CompiledSpec) : List Item → Run Nat
  | [] => return 0
  | x :: xs => do
    let holds ← c.test host x
    let rest ← count host c xs
    return if holds then rest + 1 else rest

end CompiledSpec

end Criteria
