import Criteria.Sql.Clause
import Criteria.Value.Order

/-!
# The text of clauses

`Clause.render` writes a clause. Values never enter the text: each is passed under a name made of
its base and a number, which counts the values of that base in the order in which the text mentions
them.

This is the text that SQLAlchemy 2.1 documents for its default dialect, and is assumed of it: bound values
are `:name_1`, `:name_2` and so on, a list of values is `(__[POSTCOMPILE_name_1])`, `LIKE` names its
`ESCAPE` character, and the search for a text puts `'%'` on both sides of it.
-/

namespace Criteria.Sql

/-- The values passed beside a text, in the order in which it mentions them. -/
abbrev Binds := List (String × Value)

/-- What printing has used so far: how often each base, and the values. -/
structure Printing where
  counts : List (String × Nat)
  binds : Binds

namespace Printing

def start : Printing := ⟨[], []⟩

/-- How many values of a base the text mentions so far. -/
def count (p : Printing) (base : String) : Nat := (p.counts.lookup base).getD 0

end Printing

/-- The name under which the next value of a base is passed. -/
def pass (base : String) (v : Value) : StateM Printing String := do
  let p ← get
  let n := p.count base + 1
  let name := base ++ "_" ++ toString n
  set (Printing.mk ((base, n) :: p.counts) (p.binds ++ [(name, v)]))
  return name

namespace Clause

mutual

/-- The text of a clause. -/
def print : Clause → StateM Printing String
  | column c => return c.table ++ "." ++ c.name
  | bind base v => do
    let name ← pass base v
    return ":" ++ name
  | null => return "NULL"
  | truth b => return if b then "true" else "false"
  | compare r x y => do
    let left ← print x
    let right ← print y
    return left ++ " " ++ r.keyword ++ " " ++ right
  | like negated x y => do
    let left ← print x
    let right ← print y
    return left ++ (if negated then " NOT" else "") ++ " LIKE " ++ right ++ " ESCAPE '\\'"
  | contains negated x y => do
    let left ← print x
    let right ← print y
    return left ++ (if negated then " NOT" else "") ++ " LIKE '%' || " ++ right ++
      " || '%' ESCAPE '/'"
  | within negated x base items => do
    let left ← print x
    let name ← pass base (.list items)
    let list := "(__[POSTCOMPILE_" ++ name ++ "])"
    return if negated then "(" ++ left ++ " NOT IN " ++ list ++ ")" else left ++ " IN " ++ list
  | chain k parts => do
    let texts ← printAll parts
    return k.keyword.intercalate texts
  | not c => do
    let text ← print c
    return "NOT " ++ text
  | asCondition negated c => do
    let text ← print c
    return if negated then "NOT " ++ text else text
  | caseOnly test yes => do
    let test ← print test
    let yes ← print yes
    return "CASE WHEN " ++ test ++ " THEN " ++ yes ++ " END"
  | caseElse test yes no => do
    let test ← print test
    let yes ← print yes
    let no ← print no
    return "CASE WHEN " ++ test ++ " THEN " ++ yes ++ " ELSE " ++ no ++ " END"
  | group c => do
    let text ← print c
    return "(" ++ text ++ ")"

def printAll : List Clause → StateM Printing (List String)
  | [] => return []
  | c :: cs => do
    let text ← print c
    let texts ← printAll cs
    return text :: texts

end

/-- The text of a clause and the values passed beside it. -/
def render (c : Clause) : String × Binds :=
  let (text, p) := (print c).run .start
  (text, p.binds)

end Clause

/-- A selection of rows of a table by a condition. -/
structure Selection where
  column : Column
  condition : Clause

namespace Selection

/-- The text of a selection and the values passed beside it. -/
def render (s : Selection) : String × Binds :=
  let (text, binds) := (s.condition.protect .condition).render
  ("SELECT " ++ s.column.table ++ "." ++ s.column.name ++ " \nFROM " ++ s.column.table ++
    " \nWHERE " ++ text, binds)

end Selection

/-- The passed values in the order of their names. -/
def Binds.sorted (binds : Binds) : Binds :=
  binds.mergeSort fun a b => compareText a.1 b.1 != .gt

end Criteria.Sql
