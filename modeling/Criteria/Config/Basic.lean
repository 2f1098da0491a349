import Criteria.Config.Placeholder

/-!
# Configuration

A `Config` is a tree of settings and the list of what it was read from.

* `Config.get` answers a dotted key: an environment variable overrides the tree, and placeholders in
  a text are replaced.
* `Config.entries` is the mapping under a key as it stands.
-/

namespace Criteria

/-- Settings, and the names of the sources they come from, lowest priority first. -/
structure Config where
  data : Value
  sources : List String
  deriving Repr, Inhabited

namespace Config

/-- The configuration without settings. -/
def empty : Config := ⟨.map [], []⟩

/-- The configuration with given settings; whatever counts as false stands for none. -/
def ofValue (v : Value) : Config := if v.truthy then ⟨v, []⟩ else empty

/-- The value of a key, or the default. -/
def get (c : Config) (env : Environment) (key : String) (default : Value) : Except Fault Value :=
  match env.override? key with
  | .error f => .error f
  | .ok (some text) => .ok (.str text)
  | .ok none =>
    match (c.data.lookup key).getD .none with
    | .none => .ok default
    | .str text =>
      if Placeholder.mayHold text then (Placeholder.expand env c.data text).map .str
      else .ok (.str text)
    | v => .ok v

/-- The mapping under a key; empty if there is none. -/
def entries (c : Config) (key : String) : List (Value × Value) :=
  match c.data.lookup key with
  | some (.map entries) => entries
  | _ => []

end Config

end Criteria
