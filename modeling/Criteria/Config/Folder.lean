/-!
# Files

A `Folder` is a tree of files below one folder, each known by its path from there.

* `Path` is a path as its parts; `Path.ofText` leaves out parts that lead nowhere.
* `Path.stem` and `Path.suffix` split the last part at its last dot.
* `Folder.file?` is the text of the file at a path.
-/

namespace Criteria

/-- A path from a folder, part by part. -/
structure Path where
  parts : List String
  deriving DecidableEq, Repr

namespace Path

/-- The parts between slashes. -/
def splitSlashes : List Char → List (List Char)
  | [] => [[]]
  | c :: cs =>
    match splitSlashes cs with
    | [] => [[c]]
    | part :: parts => if c = '/' then [] :: part :: parts else (c :: part) :: parts

/-- The path that a text denotes; empty parts and single dots stand for no step. -/
def ofText (text : String) : Path :=
  ⟨((splitSlashes text.toList).map String.ofList).filter fun p => p != "" && p != "."⟩

/-- The path after another one. -/
def append (p q : Path) : Path := ⟨p.parts ++ q.parts⟩

def name (p : Path) : String := p.parts.getLastD ""

def parent (p : Path) : Path := ⟨p.parts.dropLast⟩

/-- The name before and after its last dot; a dot at either end does not count. -/
def splitName (name : List Char) : List Char × List Char :=
  let suffix := (name.reverse.takeWhile (· != '.')).reverse
  let stem := name.take (name.length - suffix.length - 1)
  if suffix.isEmpty || stem.isEmpty || suffix.length = name.length then (name, [])
  else (stem, '.' :: suffix)

/-- The name without its suffix. -/
def stem (p : Path) : String := String.ofList (splitName p.name.toList).1

/-- The last dot of the name and what follows it. -/
def suffix (p : Path) : String := String.ofList (splitName p.name.toList).2

/-- The path as text, below a folder of the given name. -/
def text (base : String) (p : Path) : String := "/".intercalate (base :: p.parts)

end Path

/-- Files below one folder. -/
structure Folder where
  /-- The name of the folder. -/
  name : String
  files : List (Path × String)
  deriving Repr

namespace Folder

/-- Whether there is a folder at a path. -/
def hasFolder (folder : Folder) (parts : List String) : Bool :=
  parts.isEmpty || folder.files.any fun f =>
    parts.isPrefixOf f.1.parts && parts.length < f.1.parts.length

/-- Where a path leads; double dots step back out of a folder that is there. -/
def resolve (folder : Folder) (here : List String) : List String → Option (List String)
  | [] => some here
  | ".." :: parts =>
    if here.isEmpty || !folder.hasFolder here then none else folder.resolve here.dropLast parts
  | part :: parts => folder.resolve (here ++ [part]) parts

/-- The text of the file at a path. -/
def file? (folder : Folder) (p : Path) : Option String := do
  let parts ← folder.resolve [] p.parts
  (folder.files.find? fun f => f.1.parts == parts).map (·.2)

end Folder

end Criteria
