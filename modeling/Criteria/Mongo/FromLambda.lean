import Criteria.Mongo.Filter
import Criteria.Spec.Object

/-!
# From criteria to document filters

`Mongo.Filter.ofLambda` turns a lambda into a filter if its body is built from truth values, members
of its own parameter, comparisons of such a member with a constant, and the connectives. Every
operand is turned into a filter before anything is left out, so an unsupported part is never
overlooked.
-/

namespace Criteria.Mongo

/-- Options for the filters that search texts: the flags written beside a regular expression. -/
structure Options where
  regexOptions : Value
  deriving Repr, Inhabited

def Options.default : Options := ⟨.str ""⟩

/-- The flags for a pattern whose wildcards match line breaks: `s` is added unless it is there. -/
def Options.withLineBreaks (o : Options) : Except Fault Value := do
  let here : Origin := ⟨0, []⟩
  let present ← Datum.contains ⟨o.regexOptions, here⟩ ⟨.str "s", here⟩
  if present then return o.regexOptions
  match o.regexOptions with
  | .list items => return .list (items ++ [.str "s"])
  | .map _ | .view _ | .set _ =>
    throw (.unsupportedOperands "+=" o.regexOptions.typeName "str")
  | v => Standard.sum v (.str "s")

/-- Whether a condition compares something with a pattern. -/
def hasPattern : Expr → Bool
  | .compare op _ _ => op == .like
  | .and l r | .or l r => hasPattern l || hasPattern r
  | .not e => hasPattern e
  | _ => false

/-- The options for all searches of a condition: a list of flags is one list that they share, so if
one of them adds a flag, every other has it too. -/
def Options.shared (o : Options) (body : Expr) : Options :=
  match o.regexOptions, o.withLineBreaks with
  | .list (_ :: _), .ok flags => if hasPattern body then ⟨flags⟩ else o
  | _, _ => o

/-- The members that an access path names, the first one first, and where the path starts. -/
def accessPath : Expr → List String × Expr
  | .member target name | .tagged target name _ =>
    let (names, start) := accessPath target
    (names ++ [name], start)
  | e => ([], e)

/-- The dotted path of a field of the parameter. The path must start at the very object that is the
lambda's parameter, whatever sort of node that is. -/
def fieldPath (binder : Expr) (e : Expr) : Except Error String :=
  let path := accessPath e
  if path.2.sameObject binder then .ok (".".intercalate path.1)
  else .error (.ofUnsupported (.strayPath path.2))

/-- The test for a comparison with a constant. -/
def fieldTest (options : Options) (op : CompareOp) (constant : Datum) : Except Fault FieldTest :=
  let v := constant.value
  match op with
  | .eq | .same => .ok (.equals v)
  | .ne | .notSame => .ok (.compares .ne v)
  | .lt => .ok (.compares .lt v)
  | .le => .ok (.compares .lte v)
  | .gt => .ok (.compares .gt v)
  | .ge => .ok (.compares .gte v)
  | .isIn => do
    let items ← constant.iterate
    return .oneOf (items.map (·.value))
  | .contains => do
    let text ← v.written
    return .matching (Like.escape text) options.regexOptions
  | .like => do
    let pattern ← v.written
    let flags ← options.withLineBreaks
    return .matching ("^" ++ Like.regex pattern ++ "$") flags

/-- Whether the node is an access to a member. -/
def isAccess : Expr → Bool
  | .member .. | .tagged .. => true
  | _ => false

/-- The filter for a comparison. Accesses and constants of classes that refine those of the grammar are
as good as plain ones here. -/
def comparison (options : Options) (binder : Expr) (op : CompareOp) (l r : Expr) :
    Except Error Filter :=
  match isAccess l, r.asConstant? with
  | true, some d => do
    let path ← fieldPath binder l
    match fieldTest options op d with
    | .ok test => return .field path test
    | .error f => throw (.fault f)
  | _, _ => .error (.ofUnsupported (.notFieldComparison (.compare op l r)))

/-- The filter for a condition over the parameter that `binder` is. -/
def filterOf (options : Options) (binder : Expr) : Expr → Except Error Filter
  | .const d =>
    match d.value with
    | .bool true => .ok .everything
    | .bool false => .ok .nothing
    | _ => .error (.ofUnsupported (.constantFilter (.const d)))
  | .member target name => do
    let path ← fieldPath binder (.member target name)
    return .field path (.equals (.bool true))
  | .compare op l r => comparison options binder op l r
  | .and l r => do
    let l ← filterOf options binder l
    let r ← filterOf options binder r
    return l.both r
  | .or l r => do
    let l ← filterOf options binder l
    let r ← filterOf options binder r
    return l.either r
  | .not e => return (← filterOf options binder e).complement
  | .param p => .error (.ofUnsupported (.unknownKind .filterBuilder .parameter (.param p)))
  | .call f args label =>
    .error (.ofUnsupported (.unknownKind .filterBuilder .call (.call f args label)))
  | .cond t a b => .error (.ofUnsupported (.unknownKind .filterBuilder .conditional (.cond t a b)))
  | .lambda b e => .error (.ofUnsupported (.unknownKind .filterBuilder .lambda (.lambda b e)))
  | .tagged t n tag => .error (.ofUnsupported (.foreign .filterBuilder (.tagged t n tag)))
  | .unknown d => .error (.ofUnsupported (.foreign .filterBuilder (.unknown d)))
  | .raw d => .error (.ofUnsupported (.foreign .filterBuilder (.raw d)))

/-- The filter for a lambda. -/
def Filter.ofLambda (options : Options) (l : Lambda) : Except Error Filter :=
  filterOf (options.shared l.body) l.binder l.body

end Criteria.Mongo
