import Criteria.Expr.Basic
import Criteria.Fault

/-!
# Running

Evaluation works on items, which are data or functions made by nested lambdas, and in a world that
holds what calls have recorded and numbers new objects.

* `Item` and `Frame`: what expressions evaluate to, and what parameters stand for.
* `Run` is the monad of evaluation. What was recorded before a fault stays recorded.
-/

namespace Criteria

/-- What an expression evaluates to: a datum, or the function of a nested lambda together with the
frame it was made in. The serial number tells one made function from another. -/
inductive Item where
  | datum (d : Datum)
  | closure (serial : Nat) (binder body : Expr) (frame : List (Param × Item))
  deriving Inhabited

/-- What the parameters in scope stand for, the innermost first. -/
abbrev Frame := List (Param × Item)

namespace Item

/-- An item that exists once, such as a truth value. -/
def ofBool (b : Bool) : Item := .datum ⟨.bool b, ⟨0, []⟩⟩

def none : Item := .datum ⟨.none, ⟨0, []⟩⟩

/-- Whether the item counts as true; every function does. -/
def truthy : Item → Bool
  | datum d => d.value.truthy
  | closure .. => true

def typeName : Item → String
  | datum d => d.value.typeName
  | closure .. => "function"

/-- Whether two items are one object. -/
def same : Item → Item → Bool
  | datum a, datum b => a.same b
  | closure m .., closure n .. => m == n
  | _, _ => false

/-- Equality; a function equals itself alone. -/
def eq : Item → Item → Bool
  | datum a, datum b => a.eq b
  | a, b => a.same b

end Item

/-- What evaluation leaves behind and draws on: the recorded items, latest first, and the number of
the next new object. -/
structure World where
  log : List Item
  next : Nat

/-- A computation that may record items, make objects, and end in a fault. -/
abbrev Run (α : Type) := ExceptT Fault (StateM World) α

namespace Run

/-- The number of a new object. -/
def allocate : Run Nat := do
  let w ← get
  set { w with next := w.next + 1 }
  return w.next

/-- A new object with the given content. -/
def fresh (v : Value) : Run Item := do
  let n ← allocate
  return .datum ⟨v, ⟨n, []⟩⟩

/-- Appends an item to the log. -/
def record (tag : Item) : Run Unit := modify fun w => { w with log := tag :: w.log }

/-- The outcome of a check. -/
def ofExcept {α : Type} : Except Fault α → Run α
  | .ok a => pure a
  | .error f => throw f

/-- Runs a computation and hands its outcome on, also if it is a fault. -/
def observe {α : Type} (m : Run α) : Run (Except Fault α) := fun w =>
  let (r, w') := m.run w
  (.ok r, w')

end Run

end Criteria
