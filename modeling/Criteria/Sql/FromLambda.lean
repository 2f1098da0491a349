import Criteria.Eval.Compare
import Criteria.Spec.Object
import Criteria.Sql.Printer
import Criteria.Sql.Schema

/-!
# From criteria to clauses

`Sql.Clause.ofLambda` turns a lambda into a condition over the columns of an entity class. A node
denotes an `Operand`: a clause, or something that is known without the database and computed at
once.
-/

namespace Criteria.Sql

/-- What a node denotes. -/
inductive Operand where
  | clause (c : Clause)
  | value (d : Datum)
  /-- The entity class itself. -/
  | root (cls : EntityClass)
  deriving Repr

namespace Operand

def ofBool (b : Bool) : Operand := .value ⟨.bool b, ⟨0, []⟩⟩

def typeName : Operand → String
  | clause _ => "ColumnElement"
  | value d => d.value.typeName
  | root cls => cls.typeName

/-- The fault of asking something that is no clause for a clause's operation. -/
def lacks (name : String) : Operand → Fault
  | root cls => .missingClassAttribute cls.name name
  | o => .missingAttribute o.typeName name

/-- The value to pass beside a query; a class that stands for a table has none. -/
def passed : Operand → Except Fault Value
  | value d => .ok d.value
  | root cls => if cls.isMapped then .error .noClause else .ok (.thing cls.typeName)
  | clause _ => .error .noClause

end Operand

/-- The relation of a comparison that may be read from either side. -/
def relation? : CompareOp → Option Relation
  | .eq => some .eq
  | .ne => some .ne
  | .lt => some .lt
  | .le => some .le
  | .gt => some .gt
  | .ge => some .ge
  | _ => none

/-- The relation read from right to left. -/
def Relation.flip : Relation → Relation
  | lt => gt
  | le => ge
  | gt => lt
  | ge => le
  | r => r

/-- The comparison with one of the constants null, true and false: equality with a truth value stays
one, every other test for a constant is a test for sameness, and a constant has no order. -/
def compareConstant (r : Relation) (l m : Clause) : Except Fault Clause :=
  match r, m with
  | .eq, .truth _ => .ok (.comparison .eq l m)
  | .ne, .truth _ => .ok (.comparison .ne l m)
  | .eq, _ | .same, _ => .ok (.comparison .same l m)
  | .ne, _ | .notSame, _ => .ok (.comparison .notSame l m)
  | _, _ => .error .noConstantOrder

/-- The comparison of a clause with an operand. -/
def compareClause (r : Relation) (l : Clause) : Operand → Except Fault Clause
  | .value ⟨.none, _⟩ => compareConstant r l .null
  | .value ⟨.bool b, _⟩ => compareConstant r l (.truth b)
  | .clause .null => compareConstant r l .null
  | .clause (.truth b) => compareConstant r l (.truth b)
  | .clause c => .ok (.comparison r l c)
  | o => return .comparison r l (.bind l.bindBase (← o.passed))

/-- The comparison of two operands neither of which is a clause. -/
def comparePlain (op : CompareOp) : Operand → Operand → Except Fault Bool
  | .value a, .value b => op.holds (.datum a) (.datum b)
  | l, r =>
    let same := match l, r with
      | .root c, .root c' => c.name == c'.name
      | _, _ => false
    match op with
    | .eq => .ok same
    | .ne => .ok !same
    | op => .error (.unordered op.symbol l.typeName r.typeName)

/-- A text in which the characters with a meaning in a pattern are escaped. -/
def escapeWildcards (s : String) : String :=
  String.ofList (s.toList.flatMap fun c => if c = '/' || c = '%' || c = '_' then ['/', c] else [c])

/-- The operation that a comparison asks of its left operand. -/
def operationName : CompareOp → String
  | .isIn => "in_"
  | .contains => "contains"
  | .like => "like"
  | .same => "is_"
  | _ => "is_not"

/-- The comparison of two operands. -/
def compareOperands (op : CompareOp) (l r : Operand) : Except Fault Operand :=
  match relation? op with
  | some rel =>
    match l, r with
    | .clause c, r => return .clause (← compareClause rel c r)
    | .value d, .clause c => return .clause (← compareClause rel.flip c (.value d.uncovered))
    | l, .clause c => return .clause (← compareClause rel.flip c l)
    | l, r => return .ofBool (← comparePlain op l r)
  | none =>
    match l with
    | .clause c =>
      match op, r with
      | .isIn, .value d => do
        let items ← d.iterate
        return .clause (.within false (c.protect .operand) c.bindBase (items.map (·.value)))
      | .isIn, .clause _ => .error .noClauseItems
      | .isIn, .root cls => .error (.notIterable cls.typeName)
      | .contains, .value ⟨.str s, _⟩ =>
        return .clause
          (.contains false (c.protect .operand) (.bind c.bindBase (.str (escapeWildcards s))))
      | .contains, _ => .error .textExpected
      | .like, .value ⟨.none, _⟩ | .like, .value ⟨.bool _, _⟩ => .error .noConstantOrder
      | .like, .clause m =>
        match m with
        | .null | .truth _ => .error .noConstantOrder
        | m => return .clause (.like false (c.protect .operand) (m.protect .operand))
      | .like, r =>
        return .clause (.like false (c.protect .operand) (.bind c.bindBase (← r.passed)))
      | .same, r => return .clause (← compareClause .same c r)
      | _, r => return .clause (← compareClause .notSame c r)
    | l => .error (l.lacks (operationName op))

/-- An operand in the place of a condition. -/
def condition (node : Expr) : Operand → Except Error Clause
  | .clause c => .ok c
  | .value ⟨.bool b, _⟩ => .ok (.truth b)
  | _ => .error (.ofUnsupported (.notBoolean node))

/-- An operand as a branch of a conditional. -/
def branch : Operand → Except Fault Clause
  | .clause c => .ok c
  | .value ⟨.none, _⟩ => .ok .null
  | o => return .bind "param" (← o.passed)

/-- The conditional of a test and two branches; without a value for the second there is none. -/
def conditional (test : Clause) (yes no : Operand) : Except Fault Clause := do
  let yes ← branch yes
  let test := test.protect .isolated
  match no with
  | .value ⟨.none, _⟩ => return .caseOnly test yes
  | no => return .caseElse test yes (← branch no)

/-- The outcome of a step that may fail for reasons of its operands. -/
def liftFault {α : Type} : Except Fault α → Except Error α
  | .ok a => .ok a
  | .error f => .error (.fault f)

/-- What a parameter denotes. -/
def rootOperand (root : EntityClass) (binder : Expr) (p : Param) : Except Error Operand :=
  if binder.asParam? = some p then .ok (.root root)
  else .error (.ofUnsupported (.strayParameter p))

/-- What a member of the entity denotes. -/
def memberOperand (root : EntityClass) (binder : Expr) (target : Expr) (name : String) :
    Except Error Operand :=
  match target with
  | .param p => do
    let _ ← rootOperand root binder p
    match root.attribute? name with
    | some (.column c) => return .clause (.column c)
    | some (.value v) => return .value ⟨v, ⟨0, []⟩⟩
    | none => throw (.ofUnsupported (.missingColumn (.member target name) name root.name))
  | _ => .error (.ofUnsupported (.nestedMember (.member target name) root.name))

/-- Whether the node is a constant. -/
def isConstant : Expr → Bool
  | .const _ => true
  | _ => false

/-- What a node denotes, for the parameter that `binder` is. -/
def operandOf (root : EntityClass) (binder : Expr) : Expr → Except Error Operand
  | .param p => rootOperand root binder p
  | .const d => .ok (.value d)
  | .member target name => memberOperand root binder target name
  | .compare op l r => do
    let a ← operandOf root binder l
    let b ← operandOf root binder r
    if isConstant l && (relation? op).isNone then
      throw (.ofUnsupported (.constantOnLeft (.compare op l r)))
    liftFault (compareOperands op a b)
  | .and l r => do
    let a ← condition l (← operandOf root binder l)
    let b ← condition r (← operandOf root binder r)
    return .clause (Clause.connect .and a b)
  | .or l r => do
    let a ← condition l (← operandOf root binder l)
    let b ← condition r (← operandOf root binder r)
    return .clause (Clause.connect .or a b)
  | .not e => do
    let a ← condition e (← operandOf root binder e)
    return .clause a.negate
  | .cond test yes no => do
    let t ← condition test (← operandOf root binder test)
    let a ← operandOf root binder yes
    let b ← operandOf root binder no
    let c ← liftFault (conditional t a b)
    return .clause c
  | .call f args label =>
    .error (.ofUnsupported (.unknownKind .clauseBuilder .call (.call f args label)))
  | .lambda b e => .error (.ofUnsupported (.unknownKind .clauseBuilder .lambda (.lambda b e)))
  | .tagged t n tag => .error (.ofUnsupported (.foreign .clauseBuilder (.tagged t n tag)))
  | .unknown d => .error (.ofUnsupported (.foreign .clauseBuilder (.unknown d)))
  | .raw d => .error (.ofUnsupported (.foreign .clauseBuilder (.raw d)))

/-- The condition for a lambda over an entity class. -/
def Clause.ofLambda (root : EntityClass) (l : Lambda) : Except Error Clause := do
  condition l.body (← operandOf root l.binder l.body)

end Criteria.Sql
