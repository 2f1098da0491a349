import Criteria.Eval.Compare
import Criteria.Eval.Properties
import Criteria.Eval.Script
import Criteria.Expr.Walk

/-!
# Evaluation

`Expr.eval` evaluates a node in a frame, structurally. Applying the function of a nested lambda may
lead to further applications without end, so `Evaluator.apply` has a depth; a computation that needs
more ends in the fault `tooDeep`, like every other fault.

The connectives answer one of their operands and evaluate the right one only if the left one does
not decide.
-/

namespace Criteria

/-- What evaluation depends on besides the tree: how members are read, and what the functions that
the tree calls do. -/
structure Evaluator where
  properties : EvaluationProperties
  host : Host

namespace Expr

mutual

/-- The value of a node. -/
def eval (m : Evaluator) (apply : Item → Item → Run Item) (frame : Frame) : Expr → Run Item
  | param p =>
    match frame.lookup p with
    | some i => pure i
    | none => throw (.unboundVariable p.name.shown)
  | const d => pure (.datum d)
  | member target name => do
    let i ← eval m apply frame target
    Run.ofExcept (m.properties.read name i)
  | call f args _ => do
    let is ← evalAll m apply frame args
    match f with
    | .function r =>
      let (as, table) := Script.presentAll [] is
      (m.host r.key as).run apply table
    | .value d => throw (.notCallable d.value.typeName)
  | compare op l r => do
    let a ← eval m apply frame l
    let b ← eval m apply frame r
    let holds ← Run.ofExcept (op.holds a b)
    return .ofBool holds
  | and l r => do
    let a ← eval m apply frame l
    if a.truthy then eval m apply frame r else pure a
  | or l r => do
    let a ← eval m apply frame l
    if a.truthy then pure a else eval m apply frame r
  | not e => do
    let a ← eval m apply frame e
    return .ofBool !a.truthy
  | cond test yes no => do
    let a ← eval m apply frame test
    if a.truthy then eval m apply frame yes else eval m apply frame no
  | lambda binder body => do
    let n ← Run.allocate
    return .closure n binder body frame
  | tagged .. | unknown _ | raw _ => throw .foreignNode

/-- The values of several nodes, from left to right. -/
def evalAll (m : Evaluator) (apply : Item → Item → Run Item) (frame : Frame) :
    List Expr → Run (List Item)
  | [] => pure []
  | e :: es => do
    let i ← eval m apply frame e
    let is ← evalAll m apply frame es
    return i :: is

end

end Expr

namespace Evaluator

/-- The frame of a body whose binder stands for `x`. -/
def bind (binder : Expr) (x : Item) (frame : Frame) : Frame :=
  match binder.asParam? with
  | some p => (p, x) :: frame
  | none => frame

/-- Evaluates the body of a function whose argument is `x`. -/
def enter (m : Evaluator) (apply : Item → Item → Run Item) (binder body : Expr) (frame : Frame)
    (x : Item) : Run Item := do
  Run.ofExcept binder.hashable
  body.eval m apply (bind binder x frame)

/-- Applies one item to another, at most `depth` applications deep. -/
def apply (m : Evaluator) : (depth : Nat) → Item → Item → Run Item
  | _, .datum d, _ => throw (.notCallable d.value.typeName)
  | 0, .closure .., _ => throw .tooDeep
  | depth + 1, .closure _ binder body frame, x => m.enter (m.apply depth) binder body frame x

end Evaluator

end Criteria
