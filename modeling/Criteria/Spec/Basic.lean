import Criteria.Expr.Substitute
import Criteria.Expr.Walk
import Criteria.Value.Order

/-!
# Specifications

A specification is a reusable condition on entities. Leaves hold a condition; combinations join
specifications and leave them untouched.

* `Spec` is the type, `Spec.toLambda` the lambda that a specification stands for.
* A combination merges the lambdas of its operands: the right one is re-expressed over the parameter
  of the left one, and the bodies are joined. The negative combinations negate both bodies and join
  them the other way round.
* `Spec.combine` joins two specifications unless one of them is `Spec.everything`, which is left
  out.
-/

namespace Criteria

/-- A function of one argument as the condition of a specification. -/
structure Lambda where
  binder : Expr
  body : Expr
  deriving Repr

/-- The node for a lambda. -/
def Lambda.toExpr (l : Lambda) : Expr := .lambda l.binder l.body

/-- Construction: it may fail, and it numbers new parameters and objects. -/
abbrev Build (α : Type) := StateT Nat (Except Error) α

/-- The number of a new parameter or object. -/
def Build.allocate : Build Nat := modifyGet fun n => (n, n + 1)

/-- A new parameter with the default name. -/
def Build.freshParam : Build Param := return ⟨← allocate, Param.defaultName⟩

/-- The ways to join two specifications. -/
inductive Combination where
  /-- Both hold. -/
  | and
  /-- At least one holds. -/
  | or
  /-- Not both hold. -/
  | nand
  /-- Neither holds. -/
  | nor
  deriving DecidableEq, Repr

namespace Combination

/-- The operation in messages. -/
def operation : Combination → String
  | and => "and_"
  | or => "or_"
  | nand => "nand"
  | nor => "nor"

def className : Combination → String
  | and => "AndSpecification"
  | or => "OrSpecification"
  | nand => "NandSpecification"
  | nor => "NorSpecification"

/-- Whether the operands are negated before they are joined. -/
def negates : Combination → Bool
  | and | or => false
  | nand | nor => true

/-- The node that joins the two bodies. -/
def connective : Combination → Expr → Expr → Expr
  | and | nor => .and
  | or | nand => .or

end Combination

/-- A condition on entities. -/
inductive Spec where
  /-- The condition that every entity satisfies, the neutral element of every combination. -/
  | everything
  /-- A condition given by its tree. -/
  | tree (lambda : Lambda)
  /-- A condition given by a function that nothing looks into, over its own parameter. -/
  | predicate (f : FunctionRef) (label : Option String) (param : Param)
  /-- A condition that makes a new copy of its lambda, over a new parameter, whenever it is asked
  for it. -/
  | template (param : Param) (body : Expr)
  | combine (c : Combination) (left right : Spec)
  | negated (operand : Spec)
  deriving Repr, Inhabited

/-- The parameter of the condition that every entity satisfies; numbering starts above it. -/
def Param.universal : Param := ⟨0, Param.defaultName⟩

namespace Lambda

/-- The complement: the same parameter over the negated body. -/
def negate (l : Lambda) : Lambda := ⟨l.binder, .not l.body⟩

/-- The lambda re-expressed over `target`. -/
def rebind (l : Lambda) (target : Param) : Except Error Lambda :=
  if l.binder.asParam? = some target then .ok l
  else do
    let body ← Expr.replace l.binder target l.body
    return ⟨.param target, body.result l.body⟩

/-- Both conditions under the parameter of the left one. -/
def merge (connective : Expr → Expr → Expr) (left right : Lambda) : Except Error Lambda := do
  let target ← Expr.rebindTarget left.binder
  let right ← right.rebind target
  return ⟨left.binder, connective left.body right.body⟩

end Lambda

namespace Spec

def className : Spec → String
  | everything => "IdentitySpecification"
  | tree _ => "ExpressionSpecification"
  | predicate .. => "PredicateSpecification"
  | template .. => "CustomLeaf"
  | combine c _ _ => c.className
  | negated _ => "NegatedSpecification"

/-- Whether the specification is the neutral element. -/
def isEverything : Spec → Bool
  | everything => true
  | _ => false

/-- The lambda that the specification stands for. -/
def toLambda : Spec → Build Lambda
  | everything => return ⟨.param .universal, .const ⟨.bool true, ⟨0, []⟩⟩⟩
  | tree lambda => return lambda
  | predicate f label p => return ⟨.param p, .call (.function f) [.param p] label⟩
  | template p body => do
    let q ← Build.freshParam
    let body' ← Expr.replace (.param p) q body
    return ⟨.param q, body'.result body⟩
  | combine c l r => do
    let left ← l.toLambda
    let right ← r.toLambda
    if c.negates then Lambda.merge c.connective left.negate right.negate
    else Lambda.merge c.connective left right
  | negated s => return (← s.toLambda).negate

/-- The combination of two specifications. The neutral element is left out. -/
def join (c : Combination) (left right : Spec) : Spec :=
  if left.isEverything then right
  else if right.isEverything then left
  else combine c left right

/-- A leaf over a tree: the tree must be a lambda without free parameters. -/
def ofExpr : Expr → Except Error Spec
  | .lambda binder body =>
    match Expr.freeParams binder body with
    | .error f => .error (.fault f)
    | .ok [] => .ok (tree ⟨binder, body⟩)
    | .ok free =>
      let names := (free.map (·.name)).mergeSort (fun a b => compareText a.shown b.shown != .gt)
      .error (.ofUnbound (.free names (.lambda binder body)))
  | e => .error (.misuse (.leafWithoutLambda e.className))

/-- A leaf over a function. -/
def ofFunction (f : Callee) (label : Option String) : Build Spec :=
  match f with
  | .function r => return predicate r label (← Build.freshParam)
  | .value d => throw (.misuse (.leafWithoutFunction d.value.className))

end Spec

end Criteria
