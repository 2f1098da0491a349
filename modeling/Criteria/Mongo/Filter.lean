import Criteria.Eval.Standard
import Criteria.Like.Token

/-!
# Document filters

A filter selects documents of a document store. `Filter` is the part of that store's language that
criteria need, and `Filter.document` writes a filter as the nested mappings which the store reads.

The order of the entries is part of the written form. A test for equality is written as the bare
value.
-/

namespace Criteria.Mongo

/-- The tests of one field that compare it with a value. -/
inductive Relation where
  | ne
  | lt
  | lte
  | gt
  | gte
  deriving DecidableEq, Repr

def Relation.keyword : Relation → String
  | ne => "$ne"
  | lt => "$lt"
  | lte => "$lte"
  | gt => "$gt"
  | gte => "$gte"

/-- A test of one field. -/
inductive FieldTest where
  | equals (v : Value)
  | compares (r : Relation) (v : Value)
  | oneOf (vs : List Value)
  /-- The field is a text in which the regular expression finds something. -/
  | matching (pattern : String) (options : Value)
  deriving Repr

/-- A filter on documents. -/
inductive Filter where
  | everything
  | nothing
  | field (path : String) (test : FieldTest)
  | and (left right : Filter)
  | or (left right : Filter)
  /-- The documents that the operand does not select. -/
  | nor (operand : Filter)
  deriving Repr

/-- The written form of a field's test. -/
def FieldTest.document : FieldTest → Value
  | equals v => v
  | compares r v => .map [(.str r.keyword, v)]
  | oneOf vs => .map [(.str "$in", .list vs)]
  | matching pattern options =>
    .map ((.str "$regex", .str pattern) ::
      if options.truthy then [(.str "$options", options)] else [])

namespace Filter

/-- The written form of a filter. -/
def document : Filter → Value
  | everything => .map []
  | nothing => .map [(.str "$expr", .bool false)]
  | field path test => .map [(.str path, test.document)]
  | and l r => .map [(.str "$and", .list [l.document, r.document])]
  | or l r => .map [(.str "$or", .list [l.document, r.document])]
  | nor f => .map [(.str "$nor", .list [f.document])]

/-- Both filters; one that selects everything is left out. -/
def both : Filter → Filter → Filter
  | everything, r => r
  | l, everything => l
  | l, r => and l r

/-- Either filter; one that selects everything makes the whole select everything. -/
def either : Filter → Filter → Filter
  | everything, _ | _, everything => everything
  | l, r => or l r

/-- The complement of a filter. -/
def complement : Filter → Filter
  | everything => nothing
  | f => nor f

end Filter

end Criteria.Mongo
