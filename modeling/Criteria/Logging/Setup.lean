import Criteria.Config.Basic
import Criteria.Logging.Record

/-!
# Setting up the log

`Config.logSettings` reads how messages are to be shown and which levels hold; `Log.configure` puts
that into force, and `Log.emit` shows a message if its level passes.
-/

namespace Criteria

/-- How messages are shown, and the levels of the root and of further loggers. A logger may be named
by any value; only texts name one in the end. -/
structure LogSettings where
  root : String
  format : String
  modules : List (Value × String)
  deriving Repr

namespace LogSettings

def levelKey : String := "speclogic.logging.level"

def formatKey : String := "speclogic.logging.format"

/-- Whether messages are shown as objects rather than as running text. -/
def showsObjects (s : LogSettings) : Bool := s.format == "json"

end LogSettings

/-- The words for the levels of loggers, in capitals. -/
def LogSettings.levelWords : List (Value × Value) → Except Fault (List (Value × String))
  | [] => .ok []
  | (name, v) :: rest => do
    let word ← v.written
    return (name, Text.upperCase word) :: (← levelWords rest)

/-- What the configuration says about the log. -/
def Config.logSettings (c : Config) (env : Environment) : Except Fault LogSettings := do
  let root ← (← c.get env (LogSettings.levelKey ++ ".root") (.str "INFO")).written
  let modules ← LogSettings.levelWords
    ((c.entries LogSettings.levelKey).filter fun e => !e.1.eq (.str "root"))
  let format ← (← c.get env LogSettings.formatKey (.str "console")).written
  return ⟨Text.upperCase root, Text.lowerCase format, modules⟩

/-- The log: the levels, and the settings once it is set up. -/
structure Log where
  loggers : Loggers
  settings : Option LogSettings
  deriving Repr

/-- What the log shows of a message. -/
inductive Shown where
  | object (r : Record)
  | lines (count : Nat)
  deriving Repr

namespace Log

/-- Nothing is set up. -/
def fresh : Log := ⟨.fresh, none⟩

/-- Sets the levels of named loggers in turn. A name that counts as false is the root's; any other
name that is no text names no logger, and the rest is left undone. -/
def setModules (loggers : Loggers) : List (Value × String) → Loggers × Option Fault
  | [] => (loggers, none)
  | (name, level) :: rest =>
    match name with
    | .str name => setModules (loggers.setLevel name (.ofWord level)) rest
    | v =>
      if v.truthy then (loggers, some .unnamedLogger)
      else setModules (loggers.setLevel "" (.ofWord level)) rest

/-- Puts settings into force. Levels that were set before and are not mentioned stay. -/
def configure (log : Log) (s : LogSettings) : Log × Option Fault :=
  let (loggers, failure) :=
    setModules { log.loggers with root := .ofWord s.root } s.modules
  (⟨loggers, some s⟩, failure)

/-- What is shown of a message. Before anything is set up, messages of the library are dropped, and
`direct` ones are shown whatever their level. -/
def emit (log : Log) (direct : Bool) (r : Record) : Option Shown :=
  match log.settings with
  | none => if direct then some (.lines r.lineCount) else none
  | some s =>
    if log.loggers.isEnabled r.logger r.level then
      some (if s.showsObjects then .object r else .lines r.lineCount)
    else none

/-- What is shown when a tree was compiled; the tree is walked through only if that is of
interest. -/
def emitCompiled (log : Log) (tree : Expr) : Except Fault (Option Shown) :=
  if log.loggers.isEnabled Record.compilerLogger Level.debug then
    (Record.compiled tree).map (log.emit false)
  else .ok none

end Log

end Criteria
