import Criteria.Eval.Run

/-!
# Functions that nothing looks into

A tree may call functions whose inside the library does not know. Such a function is a `Script`: a
program that sees data in full, but sees a function among its arguments only as a handle that it can
call or pass on. It may record items, make new objects, and go on after a called function failed.

`Script.run` plays a script. The table says which function each handle stands for; a function that a
call answers with gets the next handle.
-/

namespace Criteria

/-- An argument as a script sees it. -/
inductive Arg where
  | datum (d : Datum)
  | handle (h : Nat)
  deriving Inhabited

namespace Arg

def truthy : Arg → Bool
  | datum d => d.value.truthy
  | handle _ => true

def typeName : Arg → String
  | datum d => d.value.typeName
  | handle _ => "function"

def ofBool (b : Bool) : Arg := .datum ⟨.bool b, ⟨0, []⟩⟩

end Arg

/-- What an unknown function does with its arguments. -/
inductive Script where
  | answer (a : Arg)
  | fail (f : Fault)
  | record (tag : Arg) (next : Script)
  | fresh (v : Value) (next : Arg → Script)
  | call (f x : Arg) (next : Except Fault Arg → Script)

/-- The functions that trees may call, by key. -/
abbrev Host := String → List Arg → Script

namespace Script

/-- The item that an argument stands for. -/
def resolve (table : List Item) : Arg → Item
  | .datum d => .datum d
  | .handle h => table.getD h Item.none

/-- The argument under which a script sees an item, and the table with its handle. -/
def present (table : List Item) : Item → Arg × List Item
  | .datum d => (.datum d, table)
  | i => (.handle table.length, table ++ [i])

/-- The arguments under which a script sees several items. -/
def presentAll (table : List Item) : List Item → List Arg × List Item
  | [] => ([], table)
  | i :: is =>
    let (a, table) := present table i
    let (as, table) := presentAll table is
    (a :: as, table)

/-- Plays a script, with `apply` to apply one item to another. -/
def run (apply : Item → Item → Run Item) : Script → List Item → Run Item
  | answer a, table => pure (resolve table a)
  | fail f, _ => throw f
  | record tag next, table => do
    Run.record (resolve table tag)
    run apply next table
  | fresh v next, table => do
    let i ← Run.fresh v
    let (a, table) := present table i
    run apply (next a) table
  | call f x next, table => do
    match ← Run.observe (apply (resolve table f) (resolve table x)) with
    | .ok i =>
      let (a, table) := present table i
      run apply (next (.ok a)) table
    | .error e => run apply (next (.error e)) table

end Script

end Criteria
