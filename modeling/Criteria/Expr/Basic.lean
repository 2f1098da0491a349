import Criteria.Text.Dotted
import Criteria.Value.Equality

/-!
# Expressions

The grammar in which criteria are kept. A criterion is a lambda with one parameter, which stands for
the entity, and a body built from member accesses, constants, comparisons, connectives, conditionals
and calls of functions that nothing looks into.

* `Param` is a parameter: two parameters are the same variable exactly if they are equal, and a
  name alone does not make them so.
* `CompareOp` lists the comparisons, `FunctionRef` names a function.
* `Expr` is the type of nodes. Besides the ten kinds of the grammar (`NodeKind`, `Expr.kind?`) it
  has *foreign* nodes, which a caller may put into a tree and which no traversal dispatches on: member
  accesses of a class of their own, other nodes of such a class (`Foreign`), and plain values.
* `Expr.sameObject` says whether two nodes are one object. Parameters and foreign nodes are known by
  their identity. The other nodes of the grammar are held by value, so that each place of a tree has a
  node of its own.
-/

namespace Criteria

/-- What a parameter is called. Nothing checks that it is a text. -/
inductive ParamName where
  | text (s : String)
  /-- A value that is no text, by the name of its type and the way it is written. -/
  | other (typeName shown : String)
  deriving DecidableEq, Repr, Inhabited

instance : Coe String ParamName := ⟨.text⟩

/-- The name inside a sentence. -/
def ParamName.shown : ParamName → String
  | text s => s
  | other _ shown => shown

/-- The type of a name that is no text. -/
def ParamName.otherType? : ParamName → Option String
  | text _ => none
  | other typeName _ => some typeName

/-- A parameter: its identity and the name it is shown by. -/
structure Param where
  id : Nat
  name : ParamName
  deriving DecidableEq, Repr, Inhabited

/-- The name of a parameter that was given none. -/
def Param.defaultName : String := "entity"

/-- The comparisons. -/
inductive CompareOp where
  | eq
  | ne
  | lt
  | le
  | gt
  | ge
  | isIn
  | contains
  | like
  | same
  | notSame
  deriving DecidableEq, Repr

namespace CompareOp

def all : List CompareOp :=
  [eq, ne, lt, le, gt, ge, isIn, contains, like, same, notSame]

/-- The word by which a comparison is chosen. -/
def word : CompareOp → String
  | eq => "eq"
  | ne => "ne"
  | lt => "lt"
  | le => "le"
  | gt => "gt"
  | ge => "ge"
  | isIn => "in"
  | contains => "contains"
  | like => "like"
  | same => "is"
  | notSame => "is_not"

/-- The comparison that a word chooses. -/
def ofWord? (w : String) : Option CompareOp := all.find? fun op => op.word == w

/-- How the comparison is written between its operands. -/
def symbol : CompareOp → String
  | eq => "=="
  | ne => "!="
  | lt => "<"
  | le => "<="
  | gt => ">"
  | ge => ">="
  | notSame => "is not"
  | op => op.word

/-- The name under which the comparison is listed. -/
def listName : CompareOp → String
  | eq => "EQ"
  | ne => "NE"
  | lt => "LT"
  | le => "LE"
  | gt => "GT"
  | ge => "GE"
  | isIn => "IN"
  | contains => "CONTAINS"
  | like => "LIKE"
  | same => "IS"
  | notSame => "IS_NOT"

end CompareOp

/-- A function that a tree may call, known by its key. What it does is fixed where the tree is
evaluated; `shown` is how a printed tree names it. -/
structure FunctionRef where
  key : String
  shown : String
  literal : String
  deriving DecidableEq, Repr

/-- What stands in the function position of a call. -/
inductive Callee where
  | function (f : FunctionRef)
  /-- A value that cannot be called. -/
  | value (d : Datum)
  deriving Repr

/-- A node of a class outside the grammar, an object with an identity of its own. -/
inductive Foreign where
  /-- A node of a class that has nothing in common with the grammar. -/
  | node (id : Nat) (payload : Datum)
  /-- A node of a class that refines that of constants. -/
  | constant (id : Nat) (d : Datum) (tag : String)
  deriving Repr

namespace Foreign

def id : Foreign → Nat
  | node id _ | constant id _ _ => id

/-- What the node holds. -/
def datum : Foreign → Datum
  | node _ d | constant _ d _ => d

end Foreign

/-- The nodes of an expression tree. -/
inductive Expr where
  | param (p : Param)
  | const (d : Datum)
  /-- The member `name` of `target`. -/
  | member (target : Expr) (name : String)
  | call (f : Callee) (args : List Expr) (label : Option String)
  | compare (op : CompareOp) (left right : Expr)
  | and (left right : Expr)
  | or (left right : Expr)
  | not (operand : Expr)
  | cond (test ifTrue ifFalse : Expr)
  /-- A function of one argument. Only a parameter is a proper binder. -/
  | lambda (binder body : Expr)
  /-- A member access of a class that refines that of members. -/
  | tagged (target : Expr) (name tag : String)
  /-- Any other foreign node. -/
  | unknown (node : Foreign)
  /-- A value in the place of a node. -/
  | raw (d : Datum)
  deriving Repr, Inhabited

/-- The kinds of nodes that traversals know. -/
inductive NodeKind where
  | parameter
  | constant
  | member
  | call
  | compare
  | andAlso
  | orElse
  | not
  | conditional
  | lambda
  deriving DecidableEq, Repr

namespace NodeKind

def all : List NodeKind :=
  [parameter, constant, member, call, compare, andAlso, orElse, not, conditional, lambda]

/-- The word for a kind in messages. -/
def word : NodeKind → String
  | parameter => "parameter"
  | constant => "constant"
  | member => "member"
  | call => "call"
  | compare => "compare"
  | andAlso => "and_also"
  | orElse => "or_else"
  | not => "not"
  | conditional => "conditional"
  | lambda => "lambda"

def ofWord? (w : String) : Option NodeKind := all.find? fun k => k.word == w

end NodeKind

namespace Expr

/-- The kind of a node of the grammar; a foreign node has none. -/
def kind? : Expr → Option NodeKind
  | param _ => some .parameter
  | const _ => some .constant
  | member .. => some .member
  | call .. => some .call
  | compare .. => some .compare
  | and .. => some .andAlso
  | or .. => some .orElse
  | not _ => some .not
  | cond .. => some .conditional
  | lambda .. => some .lambda
  | tagged .. | unknown _ | raw _ => none

/-- The name of a node's class. -/
def className : Expr → String
  | param _ => "Parameter"
  | const _ => "Constant"
  | member .. => "Member"
  | call .. => "Call"
  | compare .. => "Compare"
  | and .. => "AndAlso"
  | or .. => "OrElse"
  | not _ => "Not"
  | cond .. => "Conditional"
  | lambda .. => "Lambda"
  | tagged .. => "TaggedMember"
  | unknown (.node ..) => "Unknown"
  | unknown (.constant ..) => "TaggedConstant"
  | raw d => d.value.className

/-- The parameter that a node is. -/
def asParam? : Expr → Option Param
  | param p => some p
  | _ => none

/-- The constant that a node is, of the grammar or of a class that refines it. -/
def asConstant? : Expr → Option Datum
  | const d | unknown (.constant _ d _) => some d
  | _ => none

/-- Whether two nodes are one object. -/
def sameObject : Expr → Expr → Bool
  | param p, param q => p = q
  | unknown f, unknown g => f.id = g.id
  | raw d, raw d' => d.same d'
  | _, _ => false

@[simp] theorem sameObject_param_iff {e : Expr} {p : Param} :
    e.sameObject (param p) = true ↔ e = param p := by
  cases e <;> simp [sameObject]

/-- The nested member accesses for a dotted path: one for each part between dots, the first one
innermost. -/
def path (target : Expr) (dotted : String) : Expr :=
  (Text.dotted dotted).foldl member target

end Expr

end Criteria
