import Criteria.Text.Case
import Criteria.Text.Dotted

/-!
# Loggers and their levels

Loggers have dotted names. A logger without a level of its own, that is with level zero, takes the
level of the nearest logger above it that has one, the root being above all.

* `Level.ofWord` is the level that a word names.
* `Loggers.effective` is the level in force for a logger.
* `Loggers.isEnabled` says whether a message of a level passes.

It is assumed that the loggers above a logger are those whose names its own continues after a dot. The
standard library keeps a tree of loggers in which this can fail in two ways: a name with two dots in a row
is not below the part before them, and a logger that is made after one below it is passed over by that one
if its own name starts the word `root`.
-/

namespace Criteria

/-- How important a message is; zero means that no level is set. -/
abbrev Level := Nat

namespace Level

def debug : Level := 10
def info : Level := 20
def warning : Level := 30
def error : Level := 40
def critical : Level := 50

/-- The words for levels. -/
def words : List (String × Level) := [
  ("CRITICAL", critical), ("FATAL", critical), ("ERROR", error), ("WARN", warning),
  ("WARNING", warning), ("INFO", info), ("DEBUG", debug), ("NOTSET", 0)]

/-- The level that a word names in any case; any other word means information. -/
def ofWord (word : String) : Level := (words.lookup (Text.upperCase word)).getD info

/-- The word that a message of a level is shown with. -/
def word (level : Level) : String :=
  if level = critical then "critical"
  else if level = error then "error"
  else if level = warning then "warning"
  else if level = info then "info"
  else if level = debug then "debug"
  else "notset"

end Level

/-- The levels of the root and of the named loggers. -/
structure Loggers where
  root : Level
  own : List (String × Level)
  deriving Repr

namespace Loggers

/-- No logger has a level but the root, which lets warnings pass. -/
def fresh : Loggers := ⟨Level.warning, []⟩

/-- Both the empty name and the word itself name the root. -/
def isRoot (name : String) : Bool := name == "" || name == "root"

/-- The level that a logger itself has. -/
def level (s : Loggers) (name : String) : Level :=
  if isRoot name then s.root else (s.own.lookup name).getD 0

def setLevel (s : Loggers) (name : String) (level : Level) : Loggers :=
  if isRoot name then { s with root := level }
  else { s with own := (name, level) :: s.own.filter fun e => e.1 != name }

/-- The first level that is set. -/
def firstSet : List Level → Level
  | [] => 0
  | l :: ls => if l = 0 then firstSet ls else l

/-- The loggers that may decide for a logger: itself and those above it, the nearest first. -/
def deciding (name : String) : List String :=
  if isRoot name then [] else name :: Text.outerNames name

/-- The level in force for a logger, where those above it are the ones its dotted name names. -/
def effective (s : Loggers) (name : String) : Level :=
  firstSet ((deciding name).map (fun n => (s.own.lookup n).getD 0) ++ [s.root])

/-- Whether a message of a level passes. -/
def isEnabled (s : Loggers) (name : String) (level : Level) : Bool := s.effective name ≤ level

theorem level_setLevel (s : Loggers) (name : String) (l : Level) :
    (s.setLevel name l).level name = l := by
  by_cases h : isRoot name <;> simp [setLevel, level, h]

end Loggers

end Criteria
