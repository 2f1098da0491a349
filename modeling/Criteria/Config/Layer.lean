import Criteria.Config.Basic

/-!
# Layers of a configuration

A configuration is laid together from named layers, each a mapping of settings; later layers lie on
top of earlier ones.

* `Config.push` lays one more layer on top, `Config.ofLayers` all of a list.
* `Layer.defaults` is the bottom layer: what holds where nobody says otherwise.
-/

namespace Criteria

/-- Settings with the name of the source they come from. -/
structure Layer where
  name : String
  entries : List (Value × Value)
  deriving Repr

namespace Layer

/-- A mapping from texts. -/
def table (entries : List (String × Value)) : Value :=
  .map (entries.map fun e => (.str e.1, e.2))

/-- The library's own settings. -/
def defaults : Layer where
  name := Environment.root ++ "-defaults.yaml (library defaults)"
  entries := [(.str Environment.root, table [
    ("logging", table [
      ("format", .str "console"),
      ("level", table [("root", .str "INFO")])]),
    ("evaluation", table [
      ("mapping-access", .bool true),
      ("missing-member", .str "raise")]),
    ("translation", table [
      ("mongo", table [("regex-options", .str "")])])])]

end Layer

namespace Config

/-- The configuration with one more layer on top. -/
def push (c : Config) (l : Layer) : Except Fault Config := do
  let data ← c.data.overlay (.map l.entries)
  return ⟨data, c.sources ++ [l.name]⟩

/-- The configuration of layers, lowest priority first. -/
def ofLayers (layers : List Layer) : Except Fault Config := layers.foldlM push empty

end Config

end Criteria
