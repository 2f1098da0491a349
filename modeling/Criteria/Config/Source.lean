import Criteria.Config.Folder
import Criteria.Config.Layer
import Criteria.Toml.Document
import Criteria.Yaml.Document

/-!
# Configuration files

`candidates` lists where the configuration files of a folder may be, lowest priority first: the plain
files before those of each active profile, and for one of these the files in the folder `config`
before those beside it, and indented files before those in tables. `Config.ofFolder` lays those that
are there on the defaults; `Config.ofFile` reads one file.
-/

namespace Criteria

/-- Why a configuration could not be read. -/
inductive SourceError where
  | indented (stage : Yaml.Error)
  | tables
  | fault (f : Fault)
  deriving Repr

/-- The value in a file; the suffix of its name says how it is written. Whatever counts as false
stands for no settings. -/
def readSettings (p : Path) (text : String) : Except SourceError Value :=
  if p.suffix = ".toml" then
    match Toml.read text with
    | .ok v => .ok v
    | .error .malformed => .error .tables
    | .error (.tooManyDigits n) => .error (.fault (.tooManyDigits n))
  else
    match Yaml.read text with
    | .ok v => .ok (if v.truthy then v else .map [])
    | .error e => .error (.indented e)

namespace Folder

/-- The layer of a file that may be there. -/
def layer? (folder : Folder) (p : Path) (remark : String) :
    Except SourceError (Option Layer) :=
  match folder.file? p with
  | none => .ok none
  | some text =>
    match readSettings p text with
    | .ok (.map entries) => .ok (some ⟨p.text folder.name ++ remark, entries⟩)
    | .ok v => .error (.fault (.missingAttribute v.typeName "items"))
    | .error e => .error e

end Folder

/-- A profile: the word that the names of its files end in. -/
structure Profile where
  word : String
  /-- Whether the profile was given as `none`, whose files get no remark. -/
  isNone : Bool
  deriving Repr

/-- The profile that a value names, by its text. -/
def Profile.ofValue (v : Value) : Except Fault Profile := do return ⟨← v.written, v.isNone⟩

/-- The base names of configuration files, each with a remark: the plain one, then one for each
profile. -/
def configStems (profiles : List Profile) : List (String × String) :=
  (Environment.root, "") :: profiles.map fun p =>
    (s!"{Environment.root}-{p.word}", if p.isNone then "" else s!" (profile: {p.word})")

/-- The places where configuration files may be, lowest priority first. -/
def candidates (dir : Path) (profiles : List Profile) : List (Path × String) :=
  (configStems profiles).flatMap fun (stem, remark) =>
    [dir.append ⟨["config"]⟩, dir].flatMap fun place =>
      [".yaml", ".toml"].map fun suffix => (place.append (.ofText (stem ++ suffix)), remark)

/-- The profiles that a value lists; whatever counts as false lists none. -/
def profilesOf (v : Value) : Except Fault (List Profile) :=
  if v.truthy then do
    let items ← Datum.iterate ⟨v, ⟨0, []⟩⟩
    items.mapM fun d => Profile.ofValue d.value
  else .ok []

namespace Config

/-- The configuration before any file is read. -/
def bottom (withDefaults : Bool) : Except Fault Config :=
  ofLayers (if withDefaults then [.defaults] else [])

/-- The outcome of laying a layer on top, among the errors of files. -/
def lifted (r : Except Fault Config) : Except SourceError Config := r.mapError .fault

/-- The configuration with the files that are there laid on it in turn. -/
def addFiles (folder : Folder) (c : Config) : List (Path × String) → Except SourceError Config
  | [] => .ok c
  | (p, remark) :: rest => do
    match ← folder.layer? p remark with
    | none => addFiles folder c rest
    | some l => addFiles folder (← lifted (c.push l)) rest

/-- The configuration in the files of a folder. -/
def ofFolder (folder : Folder) (dir : Path) (profiles : List Profile) (withDefaults : Bool) :
    Except SourceError Config := do
  addFiles folder (← lifted (bottom withDefaults)) (candidates dir profiles)

/-- The configuration in one file; the name of the plain configuration files stands for all files of
its folder. -/
def ofFile (folder : Folder) (p : Path) (withDefaults : Bool) : Except SourceError Config :=
  if p.stem = Environment.root then ofFolder folder p.parent [] withDefaults
  else do addFiles folder (← lifted (bottom withDefaults)) [(p, "")]

end Config

end Criteria
