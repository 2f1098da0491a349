import Criteria.Error
import Criteria.Value.Access

/-!
# Walking through a tree

* `Expr.children?` lists the direct children of a node, left to right; a value in the place of a
  node has no list of children.
* `Expr.walk` visits a node and all its descendants with a stack of nodes still to visit;
  `Expr.preorder` says the same by recursion.
* `Expr.collectFree` finds the parameters that are referenced outside the lambdas binding them, and
  `Expr.freeParams` those of a lambda.
-/

namespace Criteria.Expr

/-- The direct children, left to right; those of a lambda are its binder and its body. -/
def children? : Expr → Except Fault (List Expr)
  | param _ | const _ | unknown _ => .ok []
  | member target _ | tagged target _ _ => .ok [target]
  | call _ args _ => .ok args
  | compare _ l r | and l r | or l r => .ok [l, r]
  | not e => .ok [e]
  | cond test yes no => .ok [test, yes, no]
  | lambda binder body => .ok [binder, body]
  | raw d => .error (.missingAttribute d.value.typeName "children")

mutual

/-- The number of nodes. -/
def nodeCount : Expr → Nat
  | param _ | const _ | unknown _ | raw _ => 1
  | member target _ | tagged target _ _ => 1 + target.nodeCount
  | call _ args _ => 1 + nodeCounts args
  | compare _ l r | and l r | or l r => 1 + (l.nodeCount + r.nodeCount)
  | not e => 1 + e.nodeCount
  | cond test yes no => 1 + (test.nodeCount + (yes.nodeCount + no.nodeCount))
  | lambda binder body => 1 + (binder.nodeCount + body.nodeCount)

def nodeCounts : List Expr → Nat
  | [] => 0
  | e :: es => e.nodeCount + nodeCounts es

end

theorem nodeCounts_append (es fs : List Expr) :
    nodeCounts (es ++ fs) = nodeCounts es + nodeCounts fs := by
  induction es with
  | nil => simp [nodeCounts]
  | cons e es ih => simp [nodeCounts, ih, Nat.add_assoc]

/-- A node has one node more than its children together. -/
theorem nodeCount_of_children? {e : Expr} {cs : List Expr} (h : e.children? = .ok cs) :
    e.nodeCount = 1 + nodeCounts cs := by
  cases e <;> simp only [children?, Except.ok.injEq, reduceCtorEq] at h <;> subst h <;>
    simp [nodeCount, nodeCounts]

/-- Visits the nodes on the stack and their descendants: the top node is taken off, and its children
are put in its place with the leftmost on top. -/
def walkStack (stack : List Expr) : Except Fault (List Expr) :=
  match stack with
  | [] => .ok []
  | e :: rest =>
    match _h : e.children? with
    | .error f => .error f
    | .ok cs =>
      match walkStack (cs ++ rest) with
      | .ok visited => .ok (e :: visited)
      | .error f => .error f
termination_by nodeCounts stack
decreasing_by
  rw [nodeCounts_append, nodeCounts, nodeCount_of_children? _h]
  omega

/-- The node and all its descendants, parents before children and left before right. -/
def walk (e : Expr) : Except Fault (List Expr) := walkStack [e]

mutual

/-- The node itself, followed by the walks through its children from left to right. -/
def preorder : Expr → Except Fault (List Expr)
  | param p => .ok [param p]
  | const d => .ok [const d]
  | unknown d => .ok [unknown d]
  | raw d => .error (.missingAttribute d.value.typeName "children")
  | member target name => (preorder target).map (member target name :: ·)
  | tagged target name tag => (preorder target).map (tagged target name tag :: ·)
  | call f args label => (preorders args).map (call f args label :: ·)
  | compare op l r => do return compare op l r :: ((← preorder l) ++ (← preorder r))
  | and l r => do return and l r :: ((← preorder l) ++ (← preorder r))
  | or l r => do return or l r :: ((← preorder l) ++ (← preorder r))
  | not e => (preorder e).map (not e :: ·)
  | cond test yes no => do
    return cond test yes no :: ((← preorder test) ++ ((← preorder yes) ++ (← preorder no)))
  | lambda binder body => do return lambda binder body :: ((← preorder binder) ++ (← preorder body))

def preorders : List Expr → Except Fault (List Expr)
  | [] => .ok []
  | e :: es => do return (← preorder e) ++ (← preorders es)

end

mutual

/-- Whether the node may be a key: its constants and values decide, a parameter always may. -/
def hashable : Expr → Except Fault Unit
  | param _ => .ok ()
  | const d | raw d => d.value.hashable
  | unknown f => f.datum.value.hashable
  | member target _ | tagged target _ _ => target.hashable
  | call f args _ => do
    match f with
    | .function _ => pure ()
    | .value d => d.value.hashable
    allHashable args
  | compare _ l r | and l r | or l r => do l.hashable; r.hashable
  | not e => e.hashable
  | cond test yes no => do test.hashable; yes.hashable; no.hashable
  | lambda binder body => do binder.hashable; body.hashable

def allHashable : List Expr → Except Fault Unit
  | [] => .ok ()
  | e :: es => do e.hashable; allHashable es

end

mutual

/-- The references to parameters outside `bound` and outside the lambdas that bind them, in the
order of the walk. -/
def collectFree (bound : List Param) : Expr → Except Fault (List Param)
  | param p => .ok (if bound.contains p then [] else [p])
  | const _ | unknown _ => .ok []
  | raw d => .error (.missingAttribute d.value.typeName "children")
  | member target _ | tagged target _ _ => collectFree bound target
  | call _ args _ => collectFreeAll bound args
  | compare _ l r | and l r | or l r => do return (← collectFree bound l) ++ (← collectFree bound r)
  | not e => collectFree bound e
  | cond test yes no => do
    return (← collectFree bound test) ++ ((← collectFree bound yes) ++ (← collectFree bound no))
  | lambda binder body => do
    binder.hashable
    collectFree (binder.asParam?.toList ++ bound) body

def collectFreeAll (bound : List Param) : List Expr → Except Fault (List Param)
  | [] => .ok []
  | e :: es => do return (← collectFree bound e) ++ (← collectFreeAll bound es)

end

/-- The parameters that are referenced in a lambda's body and bound neither by the lambda nor by a
nested one, each of them once. -/
def freeParams (binder body : Expr) : Except Fault (List Param) := do
  binder.hashable
  return (← collectFree binder.asParam?.toList body).eraseDups

end Criteria.Expr
