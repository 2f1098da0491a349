import Criteria.Sql.Clause

/-!
# Entity classes

What a member of the entity means in a query: a column of the table that the class is mapped to, or
a plain value that the class holds for itself.
-/

namespace Criteria.Sql

/-- What an attribute of an entity class is. -/
inductive Attribute where
  | column (c : Column)
  | value (v : Value)
  deriving Repr

/-- An entity class. -/
structure EntityClass where
  name : String
  /-- The name of the class's own type in messages. -/
  typeName : String
  /-- Whether the class stands for a table; the class itself is then no value of a query. -/
  isMapped : Bool
  attributes : List (String × Attribute)
  deriving Repr

namespace EntityClass

/-- The attribute with a name; one that holds `none` is as good as absent. -/
def attribute? (c : EntityClass) (name : String) : Option Attribute :=
  match c.attributes.lookup name with
  | some (.value .none) => none
  | a => a

/-- A class mapped to a table of people. -/
def user : EntityClass where
  name := "User"
  typeName := "DeclarativeAttributeIntercept"
  isMapped := true
  attributes :=
    let column (name : String) (type : ColumnType) (nullable : Bool) : String × Attribute :=
      (name, .column ⟨"spec_users", name, type, nullable⟩)
    [column "id" .integer false, column "name" .text false, column "role" .text false,
      column "age" .integer false, column "active" .boolean false, column "bio" .text true,
      ("__tablename__", .value (.str "spec_users")), ("metadata", .value (.thing "MetaData")),
      ("__name__", .value (.str "User"))]

/-- A class that is mapped to nothing. -/
def plain : EntityClass where
  name := "Plain"
  typeName := "type"
  isMapped := false
  attributes := [
    ("tag", .value (.str "x")), ("size", .value (.int 3)), ("yes", .value (.bool true)),
    ("no", .value (.bool false)), ("nothing", .value .none), ("__name__", .value (.str "Plain"))]

/-- The column by which rows are selected. -/
def key : Column := ⟨"spec_users", "id", .integer, false⟩

/-- The entity class of a name. -/
def ofName? : String → Option EntityClass
  | "User" => some user
  | "Plain" => some plain
  | _ => none

end EntityClass

end Criteria.Sql
