import Criteria.Fault
import Criteria.Text.Case

/-!
# Environment variables

An `Environment` gives texts to names.

* `Environment.read` is the text of a variable. Variables are named by bytes.
* `Environment.variableName` is the name of the variable that overrides a configuration key.
-/

namespace Criteria

/-- Named texts. -/
structure Environment where
  assignments : List (String × String)
  deriving Repr, Inhabited

namespace Environment

def get? (env : Environment) (name : String) : Option String :=
  (env.assignments.find? fun v => v.1 == name).map (·.2)

def unset (env : Environment) (name : String) : Environment :=
  ⟨env.assignments.filter fun v => v.1 != name⟩

def set (env : Environment) (name value : String) : Environment :=
  ⟨(name, value) :: (env.unset name).assignments⟩

theorem get?_set (env : Environment) (name value : String) :
    (env.set name value).get? name = some value := by
  simp [get?, set]

theorem get?_unset (env : Environment) (name : String) : (env.unset name).get? name = none := by
  simp [get?, unset]

/-- The text of a variable; without bytes for its name it cannot be looked up. -/
def read (env : Environment) (name : String) : Except Fault (Option String) :=
  if name.toList.all Text.hasBytes then .ok (env.get? name) else .error (.unencodable name)

/-- The name under which the library's own settings are kept. -/
def root : String := "speclogic"

/-- The key below the library's root; keys elsewhere stay as they are. -/
def relativeKey (key : String) : List Char :=
  let own := (root ++ ".").toList
  if own.isPrefixOf key.toList then key.toList.drop own.length else key.toList

/-- The variable for a key: the part below the root in capitals, dots and hyphens as underscores. -/
def variableName (key : String) : String :=
  "SPECLOGIC_" ++ Text.upperCase
    (String.ofList ((relativeKey key).map fun c => if c == '.' || c == '-' then '_' else c))

/-- The text that overrides a key. -/
def override? (env : Environment) (key : String) : Except Fault (Option String) :=
  env.read (variableName key)

end Environment

end Criteria
