import Criteria.Error

/-!
# Outlines

The outline of a tree keeps the kind of every node and nothing else. `Expr.outline` is the simplest
complete traversal: it dispatches on the kind of each node and refuses a foreign node, or a kind
that it was not told to expect, at the point where it meets it.
-/

namespace Criteria

/-- The kind of a node and the outlines of its children. -/
inductive Outline where
  | node (kind : NodeKind) (children : List Outline)
  deriving Repr

/-- The kind of a node, if a traversal that expects the given kinds can handle it. -/
def Expr.dispatch (t : Traversal) (expected : NodeKind → Bool) (e : Expr) :
    Except Error NodeKind :=
  match e.kind? with
  | none => .error (.ofUnsupported (.foreign t e))
  | some k => if expected k then .ok k else .error (.ofUnsupported (.unknownKind t k e))

namespace Expr

mutual

/-- The outline of a tree whose nodes are all of an expected kind. -/
def outline (expected : NodeKind → Bool) (e : Expr) : Except Error Outline := do
  let k ← e.dispatch .partialVisitor expected
  match e with
  | param _ | const _ | unknown _ | raw _ => return .node k []
  | member target _ | tagged target _ _ => return .node k [← outline expected target]
  | call _ args _ => return .node k (← outlines expected args)
  | compare _ l r | and l r | or l r =>
    let l ← outline expected l
    let r ← outline expected r
    return .node k [l, r]
  | not e => return .node k [← outline expected e]
  | cond test yes no =>
    let test ← outline expected test
    let yes ← outline expected yes
    let no ← outline expected no
    return .node k [test, yes, no]
  | lambda binder body =>
    let binder ← outline expected binder
    let body ← outline expected body
    return .node k [binder, body]

def outlines (expected : NodeKind → Bool) : List Expr → Except Error (List Outline)
  | [] => return []
  | e :: es => do
    let o ← outline expected e
    let os ← outlines expected es
    return o :: os

end

end Expr

end Criteria
