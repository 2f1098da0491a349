import Criteria.Eval.Run
import Criteria.Like.Token
import Criteria.Value.Access
import Criteria.Value.Order

/-!
# Comparing items

`CompareOp.holds` is the meaning of the eleven comparisons on two items. A pattern comparison never
holds of `none`; of anything else it compares the plain texts.
-/

namespace Criteria

namespace Item

/-- Whether the container holds the item. -/
def contains : Item → Item → Except Fault Bool
  | datum c, datum x => c.contains x
  | datum c, x@(closure ..) =>
    match c.value with
    | .str _ => .error (.substringOperand x.typeName)
    | .bytes _ => .error (.bytesOperand x.typeName)
    | .list _ | .tuple _ | .map _ | .view _ | .set _ => .ok false
    | v => .error (.notContainer v.typeName)
  | c@(closure ..), _ => .error (.notContainer c.typeName)

/-- Whether the inequality holds; a function has no order. -/
def ordered (op : Inequality) : Item → Item → Except Fault Bool
  | datum a, datum b => a.ordered op b
  | datum ⟨.view _, _⟩, b => .error (.unordered op.symbol "dict" b.typeName)
  | a, datum ⟨.view _, _⟩ => .error (.unordered op.flip.symbol "dict" a.typeName)
  | a, b => .error (.unordered op.symbol a.typeName b.typeName)

def isNone : Item → Bool
  | datum d => d.value.isNone
  | closure .. => false

/-- The plain text of an item; that of a function says where it was made. An integer of too many
digits has none. -/
def text : Item → Except Fault String
  | datum d => d.value.written
  | closure .. => .ok <|
    "<function ExpressionCompiler.visit_lambda.<locals>.make_function.<locals>.function at " ++
      "0x7f0000000000>"

/-- Whether the item's text fits the pattern, whose own text is asked for first. -/
def fits (value pattern : Item) : Except Fault Bool :=
  if value.isNone || pattern.isNone then .ok false
  else do
    let pattern ← pattern.text
    let text ← value.text
    return Like.fits pattern text

end Item

/-- Whether the comparison holds of two items. -/
def CompareOp.holds : CompareOp → Item → Item → Except Fault Bool
  | eq, a, b => .ok (a.eq b)
  | ne, a, b => .ok (!a.eq b)
  | lt, a, b => a.ordered .lt b
  | le, a, b => a.ordered .le b
  | gt, a, b => a.ordered .gt b
  | ge, a, b => a.ordered .ge b
  | isIn, a, b => b.contains a
  | contains, a, b => a.contains b
  | like, a, b => a.fits b
  | same, a, b => .ok (a.same b)
  | notSame, a, b => .ok (!a.same b)

end Criteria
