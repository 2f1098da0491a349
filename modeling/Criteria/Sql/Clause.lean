import Criteria.Value.Basic

/-!
# Clauses

The boolean and value expressions of a relational query. `Clause` keeps the parentheses that the
written form needs (`group`), so that printing is a plain walk; the operations below build clauses
with the parentheses in place.

* `Clause.protect` encloses a clause that binds less tightly than its surroundings.
* `Clause.negate` is the complement: a comparison turns into its opposite, if it has one, and other
  clauses get a `NOT`.
* `Clause.connect` joins two clauses. The neutral constant is dropped, the absorbing one stands
  alone, and a chain of one connective is kept flat.

The clauses are those of SQLAlchemy 2.1, whose code is not part of this. What its documentation says of
them is assumed and is what the operations compute:
* `and_` and `or_` drop `true` and `false` or are decided by them, and merge with chains of their kind;
* `not_` turns an operator into the negated one it has, drops a `NOT` from a boolean value, and puts one
  before anything else;
* a constant compared with a column is a bound value named after the column; `None`, `True` and `False`
  are written out, and can be compared only for equality and sameness;
* an operand that binds less tightly than its surroundings is put in parentheses.
-/

namespace Criteria.Sql

/-- The types of columns. Columns of other types, such as dates and numbers with a fraction, are not
covered. -/
inductive ColumnType where
  | integer
  | text
  | boolean
  deriving DecidableEq, Repr

/-- A column of a table. -/
structure Column where
  table : String
  name : String
  type : ColumnType
  nullable : Bool
  deriving DecidableEq, Repr

/-- The comparisons of a clause. -/
inductive Relation where
  | eq
  | ne
  | lt
  | le
  | gt
  | ge
  | same
  | notSame
  deriving DecidableEq, Repr

namespace Relation

/-- The relation that holds of two values that are not null exactly if this one does not. -/
def opposite : Relation → Relation
  | eq => ne
  | ne => eq
  | lt => ge
  | le => gt
  | gt => le
  | ge => lt
  | same => notSame
  | notSame => same

def keyword : Relation → String
  | eq => "="
  | ne => "!="
  | lt => "<"
  | le => "<="
  | gt => ">"
  | ge => ">="
  | same => "IS"
  | notSame => "IS NOT"

end Relation

/-- The connectives. -/
inductive Connective where
  | and
  | or
  deriving DecidableEq, Repr

namespace Connective

/-- The constant that a connective ignores; the other one decides the whole. -/
def neutral : Connective → Bool
  | and => true
  | or => false

def keyword : Connective → String
  | and => " AND "
  | or => " OR "

end Connective

/-- The expressions of a query. -/
inductive Clause where
  | column (c : Column)
  /-- A value passed beside the text, under a name derived from `base`. -/
  | bind (base : String) (v : Value)
  | null
  | truth (b : Bool)
  | compare (r : Relation) (left right : Clause)
  | like (negated : Bool) (left right : Clause)
  /-- The left text contains the right one. -/
  | contains (negated : Bool) (left right : Clause)
  /-- The left value is one of the items, which are passed beside the text. -/
  | within (negated : Bool) (left : Clause) (base : String) (items : List Value)
  | chain (k : Connective) (parts : List Clause)
  | not (c : Clause)
  /-- A boolean value in the place of a condition, or its complement. -/
  | asCondition (negated : Bool) (c : Clause)
  /-- `ifTrue` if the test holds, else null. -/
  | caseOnly (test ifTrue : Clause)
  | caseElse (test ifTrue ifFalse : Clause)
  | group (c : Clause)
  deriving Repr, Inhabited

namespace Clause

/-- Whether the clause is known to be boolean. -/
def isBoolean : Clause → Bool
  | column c => c.type == .boolean
  | bind _ v => match v with
    | .bool _ => true
    | _ => false
  | null | not _ => false
  | truth _ | compare .. | like .. | contains .. | within .. | chain .. | asCondition .. => true
  | caseOnly _ c | caseElse _ c _ | group c => c.isBoolean

/-- What a clause stands in. -/
inductive Context where
  /-- An operand of a comparison or of `NOT`. -/
  | operand
  | connective (k : Connective)
  /-- A whole condition. -/
  | condition
  /-- A place that keeps only the simplest clauses bare. -/
  | isolated
  deriving DecidableEq, Repr

/-- How tightly a context holds together; a clause that does not bind more tightly is enclosed. -/
def Context.strength : Context → Int
  | operand => 5
  | connective .and => 3
  | connective .or => 2
  | condition => -10
  | isolated => 100

/-- How tightly the clause's own operator binds, if it has one. The search for a text binds least of
all. -/
def strength? : Clause → Option Int
  | compare .. | like .. | within .. | not _ => some 5
  | contains .. => some (-100)
  | chain .and _ => some 3
  | chain .or _ => some 2
  | _ => none

/-- The clause as it stands in a context: enclosed if needed, and marked as a condition if a boolean
value stands where a condition is expected. A chain in a chain of its own connective is left
alone. -/
def protect (ctx : Context) (c : Clause) : Clause :=
  match c with
  | asCondition .. | group _ => c
  | chain k _ =>
    if ctx = .connective k then c
    else if (Context.connective k).strength ≤ ctx.strength then group c
    else c
  | _ =>
    match c.strength? with
    | some s => if s ≤ ctx.strength then group c else c
    | none =>
      match ctx with
      | .connective _ | .condition => if c.isBoolean then asCondition false c else c
      | _ => c

/-- Whether the clause is one of the constants null, true and false. -/
def isLiteral : Clause → Bool
  | null | truth _ => true
  | _ => false

/-- The relation of the complement of a comparison with `right` as its right operand. A test for
sameness has an opposite only where it tests for a constant, and stays as it is elsewhere. -/
def complementRelation (r : Relation) (right : Clause) : Relation :=
  match r with
  | .same | .notSame => if right.isLiteral then r.opposite else r
  | _ => r.opposite

/-- The complement. -/
def negate (c : Clause) : Clause :=
  match c with
  | truth b => truth !b
  | compare r x y => compare (complementRelation r y) x y
  | like n x y => like (!n) x y
  | contains n x y => contains (!n) x y
  | within n x base items => within (!n) x base items
  | asCondition _ (truth b) => truth !b
  | asCondition n x => asCondition (!n) x
  | chain .. | not _ => not (c.protect .operand)
  | column _ | bind .. | null | caseOnly .. | caseElse .. | group _ =>
    if c.isBoolean then asCondition true c else not c

/-- The parts that a clause contributes to a chain. -/
def parts (k : Connective) : Clause → List Clause
  | chain k' cs => if k' = k then cs else [chain k' cs]
  | c => [c]

/-- Two clauses joined by a connective. -/
def connect (k : Connective) (l r : Clause) : Clause :=
  match l, r with
  | truth a, truth b =>
    asCondition false (truth (if a = k.neutral then b else a))
  | truth a, c | c, truth a =>
    if a = k.neutral then c.protect .condition else asCondition false (truth a)
  | l, r =>
    chain k ((l.protect (.connective k)).parts k ++ (r.protect (.connective k)).parts k)

/-- The base of the names under which values compared with the clause are passed. -/
def bindBase : Clause → String
  | column c => c.name
  | _ => "param"

/-- The comparison of two clauses. -/
def comparison (r : Relation) (l m : Clause) : Clause :=
  compare r (l.protect .operand) (m.protect .operand)

end Clause

end Criteria.Sql
