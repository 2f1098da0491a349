import Criteria.Expr.Basic

/-!
# Equality of expressions

Two nodes are equal if they are of one class and their parts are equal. Parameters are equal only to
themselves, functions are compared by what they refer to, and constants as containers compare their
items.
-/

namespace Criteria

namespace Callee

def alike : Callee → Callee → Bool
  | function f, function g => f.key == g.key
  | value a, value b => a.alike b
  | _, _ => false

end Callee

/-- Whether two foreign nodes are equal. -/
def Foreign.alike : Foreign → Foreign → Bool
  | node _ a, node _ b => a.alike b
  | constant _ a tag, constant _ b tag' => a.alike b && tag == tag'
  | _, _ => false

namespace Expr

mutual

/-- Whether two nodes are equal. -/
def alike : Expr → Expr → Bool
  | param p, param q => p == q
  | const a, const b => a.alike b
  | member t n, member t' n' => t.alike t' && n == n'
  | call f args label, call f' args' label' =>
    f.alike f' && allAlike args args' && label == label'
  | compare op l r, compare op' l' r' => op == op' && l.alike l' && r.alike r'
  | and l r, and l' r' => l.alike l' && r.alike r'
  | or l r, or l' r' => l.alike l' && r.alike r'
  | not e, not e' => e.alike e'
  | cond t y n, cond t' y' n' => t.alike t' && y.alike y' && n.alike n'
  | lambda b e, lambda b' e' => b.alike b' && e.alike e'
  | tagged t n tag, tagged t' n' tag' => t.alike t' && n == n' && tag == tag'
  | unknown a, unknown b => a.alike b
  | raw a, raw b => a.alike b
  | _, _ => false

def allAlike : List Expr → List Expr → Bool
  | [], [] => true
  | e :: es, f :: fs => e.alike f && allAlike es fs
  | _, _ => false

end

end Expr

end Criteria
