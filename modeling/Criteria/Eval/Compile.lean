import Criteria.Eval.Basic

/-!
# Compilation

Compiling a lambda resolves every reference against the lambdas that enclose it, and refuses foreign
nodes, before any entity is seen. `Expr.check` is that analysis; `Compiled` is a lambda that passed
it, and `Compiled.call` evaluates it on an entity.
-/

namespace Criteria

namespace Expr

mutual

/-- Whether every reference is bound by the scope or by a lambda inside the tree, and every node but
a binder belongs to the grammar. The first offence in the order of evaluation is reported. -/
def check (scope : List Param) : Expr → Except Error Unit
  | param p => if scope.contains p then .ok () else .error (.unbound (.reference p))
  | const _ => .ok ()
  | member target _ => check scope target
  | call _ args _ => checkAll scope args
  | compare _ l r | and l r | or l r => do
    check scope l
    check scope r
  | not e => check scope e
  | cond test yes no => do
    check scope test
    check scope yes
    check scope no
  | lambda binder body => check (binder.asParam?.toList ++ scope) body
  | tagged target name tag => .error (.ofUnsupported (.foreign .compiler (tagged target name tag)))
  | unknown d => .error (.ofUnsupported (.foreign .compiler (unknown d)))
  | raw d => .error (.ofUnsupported (.foreign .compiler (raw d)))

def checkAll (scope : List Param) : List Expr → Except Error Unit
  | [] => .ok ()
  | e :: es => do
    check scope e
    checkAll scope es

end

end Expr

/-- A lambda whose references are all bound, ready to be evaluated. -/
structure Compiled where
  properties : EvaluationProperties
  binder : Expr
  body : Expr

/-- How deep applications of nested lambdas may go. -/
def depthLimit : Nat := 1000

namespace Compiled

/-- The lambda that was compiled. -/
def tree (c : Compiled) : Expr := .lambda c.binder c.body

/-- The evaluator of a compiled lambda. -/
def evaluator (c : Compiled) (host : Host) : Evaluator := ⟨c.properties, host⟩

/-- Applies the lambda to an entity. -/
def call (c : Compiled) (host : Host) (entity : Item) : Run Item :=
  let m := c.evaluator host
  m.enter (m.apply depthLimit) c.binder c.body [] entity

end Compiled

/-- Compiles a lambda. -/
def Expr.compile (properties : EvaluationProperties) : Expr → Except Error Compiled
  | lambda binder body => do
    check binder.asParam?.toList body
    return ⟨properties, binder, body⟩
  | e => .error (.misuse (.notCompilable e.className))

end Criteria
