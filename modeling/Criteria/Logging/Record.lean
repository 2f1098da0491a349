import Criteria.Logging.Loggers
import Criteria.Spec.Basic
import Criteria.Sql.Schema

/-!
# Messages

A `Record` is a message with the logger it goes to. The library itself tells, for those who look for
details, what it compiled and what it turned into queries.

* `Record.compiled`, `Record.document` and `Record.clause` are the library's own messages.
* `Record.entries` is what a message consists of, `Record.lineCount` the number of lines it takes.
-/

namespace Criteria

/-- A message. -/
structure Record where
  logger : String
  level : Level
  event : String
  fields : List (String × Value)
  deriving Repr

namespace Record

/-- A message of the library about details. -/
def detail (logger event : String) : Record := ⟨logger, Level.debug, event, []⟩

/-- The loggers of the library. -/
def compilerLogger : String := "speclogic.expression.compiler"
def documentLogger : String := "speclogic.translation.mongo"
def clauseLogger : String := "speclogic.translation.sqlalchemy"

/-- A tree was compiled. -/
def compiled (tree : Expr) : Except Fault Record := do
  let nodes ← tree.walk
  return detail compilerLogger s!"Compiled {tree.text} ({nodes.length} nodes)"

/-- A condition was turned into a document. -/
def document (l : Lambda) (document : Value) : Record :=
  detail documentLogger s!"Translated {l.toExpr.text} to {document.text}"

/-- A condition was turned into a clause. -/
def clause (l : Lambda) (root : Sql.EntityClass) : Record :=
  detail clauseLogger s!"Translated {l.toExpr.text} for {root.name}"

/-- The parts of a message under their names. Parts that every message has win over fields of the
same name. -/
def entries (r : Record) : List (String × Value) :=
  let fixed : List (String × Value) := [
    ("event", .str r.event),
    ("level", .str r.level.word),
    ("logger", .str (if Loggers.isRoot r.logger then "root" else r.logger))]
  r.fields.filter (fun f => fixed.all (·.1 != f.1)) ++ fixed

/-- The number of lines of a message in running text. Fields never break a line: a text with blanks
is quoted there. -/
def lineCount (r : Record) : Nat := 1 + r.event.toList.count '\n'

end Record

end Criteria
