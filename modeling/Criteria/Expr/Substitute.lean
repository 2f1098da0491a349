import Criteria.Error

/-!
# Substituting parameters

`Expr.substitute` replaces every parameter of a tree, references and binders alike, by its image
under a map. It rebuilds only what changes: the answer is `Substituted.kept` if the tree comes back
as the very same object, and a node whose children are all kept is kept itself.

`Expr.rebind` re-expresses a lambda over another parameter, the step that lets two independently
built criteria share one lambda.
-/

namespace Criteria

/-- The result for a node. -/
inductive Substituted where
  /-- The node itself, not copied. -/
  | kept
  | changed (e : Expr)
  deriving Repr

namespace Substituted

/-- The tree that `old` became. -/
def result (old : Expr) : Substituted → Expr
  | kept => old
  | changed e => e

def isKept : Substituted → Bool
  | kept => true
  | changed _ => false

/-- The result for a node whose children gave the results `parts`: the node, if all of them are
kept, and else the rebuilt one. -/
def ofParts (parts : List Substituted) (rebuilt : Expr) : Substituted :=
  if parts.all isKept then kept else changed rebuilt

end Substituted

namespace Expr

/-- The image of a parameter; a parameter that is mapped to itself is kept. -/
def substituteParam (image : Param → Expr) (p : Param) : Substituted :=
  match image p with
  | param q => if q = p then .kept else .changed (param q)
  | e => .changed e

mutual

/-- The tree with every parameter replaced by its image. Images are left as they are. -/
def substitute (t : Traversal) (image : Param → Expr) : Expr → Except Error Substituted
  | param p => .ok (substituteParam image p)
  | const _ => .ok .kept
  | member target name => do
    let target' ← substitute t image target
    return .ofParts [target'] (member (target'.result target) name)
  | call f args label => do
    let args' ← substituteAll t image args
    return .ofParts args' (call f (List.zipWith Substituted.result args args') label)
  | compare op l r => do
    let l' ← substitute t image l
    let r' ← substitute t image r
    return .ofParts [l', r'] (compare op (l'.result l) (r'.result r))
  | and l r => do
    let l' ← substitute t image l
    let r' ← substitute t image r
    return .ofParts [l', r'] (and (l'.result l) (r'.result r))
  | or l r => do
    let l' ← substitute t image l
    let r' ← substitute t image r
    return .ofParts [l', r'] (or (l'.result l) (r'.result r))
  | not e => do
    let e' ← substitute t image e
    return .ofParts [e'] (not (e'.result e))
  | cond test yes no => do
    let test' ← substitute t image test
    let yes' ← substitute t image yes
    let no' ← substitute t image no
    return .ofParts [test', yes', no'] (cond (test'.result test) (yes'.result yes) (no'.result no))
  | lambda binder body => do
    let binder' ← substitute t image binder
    if (binder'.result binder).asParam?.isNone then
      throw (.ofUnsupported (.binderLost (binder'.result binder) (lambda binder body)))
    let body' ← substitute t image body
    return .ofParts [binder', body'] (lambda (binder'.result binder) (body'.result body))
  | tagged target name tag => .error (.ofUnsupported (.foreign t (tagged target name tag)))
  | unknown d => .error (.ofUnsupported (.foreign t (unknown d)))
  | raw d => .error (.ofUnsupported (.foreign t (raw d)))

def substituteAll (t : Traversal) (image : Param → Expr) :
    List Expr → Except Error (List Substituted)
  | [] => return []
  | e :: es => do
    let e' ← substitute t image e
    let es' ← substituteAll t image es
    return e' :: es'

end

/-- The map that sends the parameter that `source` is to `target` and every other one to itself; a
source that is no parameter sends none. -/
def replacement (source : Expr) (target p : Param) : Expr :=
  if source.asParam? = some p then param target else param p

/-- Every occurrence of the parameter that `source` is, replaced by `target`. -/
def replace (source : Expr) (target : Param) (e : Expr) : Except Error Substituted :=
  substitute .rebinder (replacement source target) e

/-- The parameter over which lambdas are to be re-expressed. -/
def rebindTarget (e : Expr) : Except Error Param :=
  match e with
  | param p => .ok p
  | e => .error (.misuse (.badRebindTarget e.className))

/-- The lambda re-expressed over `target`; a lambda over `target` is kept. -/
def rebind (target : Param) : Expr → Except Error Substituted
  | lambda binder body =>
    if binder.asParam? = some target then .ok .kept
    else do
      let body' ← replace binder target body
      return .changed (lambda (param target) (body'.result body))
  | e => .error (.misuse (.notRebindable e.className))

/-- Which nodes of a tree, in the order of the walk, come back as the same object from substituting
with `image`. -/
def keptNodes (image : Param → Expr) (nodes : List Expr) : List Bool :=
  nodes.map fun e =>
    match substitute .substitution image e with
    | .ok r => r.isKept
    | .error _ => false

end Expr

end Criteria
