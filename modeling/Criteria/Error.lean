import Criteria.Expr.Printer
import Criteria.Fault

/-!
# Errors

What the library refuses, and why. There are three causes besides a `Fault` of evaluation: an
argument of the wrong sort (`Misuse`), a tree that a traversal cannot handle (`Unsupported`), and a
parameter outside the lambda that binds it (`Unbound`).

* `Error.message` is the text for a reader.
* `Error.context` is the same information for a program, as named values.
* `ErrorClass` sorts errors into a hierarchy; each class has at most one code.
-/

namespace Criteria

/-- The traversals, by the names they have in messages. -/
inductive Traversal where
  | compiler
  | substitution
  | rebinder
  | filterBuilder
  | clauseBuilder
  | partialVisitor
  deriving DecidableEq, Repr

def Traversal.name : Traversal → String
  | compiler => "ExpressionCompiler"
  | substitution => "ExpressionRewriter"
  | rebinder => "ParameterRebinder"
  | filterBuilder => "_FilterBuilder"
  | clauseBuilder => "_ClauseBuilder"
  | partialVisitor => "PartialVisitor"

/-- Arguments of the wrong sort. -/
inductive Misuse where
  /-- An operation of the algebra got `none` in place of a specification. -/
  | missingOperand (operation : String)
  /-- An operation of the algebra got something that is no specification. -/
  | mistypedOperand (operation className : String)
  | notCompilable (className : String)
  | notRebindable (className : String)
  | badRebindTarget (className : String)
  | noLambda (className : String)
  | leafWithoutLambda (className : String)
  | leafWithoutFunction (className : String)
  | badFieldName (literal : String)
  | noFilters
  | noExample
  | noEntityClass
  deriving Repr

namespace Misuse

def message : Misuse → String
  | missingOperand operation => s!"Specification.{operation}() requires an operand, got None"
  | mistypedOperand operation t => s!"Specification.{operation}() requires a Specification, got {t}"
  | notCompilable t => s!"Only lambdas can be compiled, got {t}"
  | notRebindable t => s!"Only lambdas can be rebound, got {t}"
  | badRebindTarget t => s!"Rebind target must be a Parameter, got {t}"
  | noLambda t => s!"Expected a Specification or Lambda, got {t}"
  | leafWithoutLambda t => s!"ExpressionSpecification requires a Lambda, got {t}"
  | leafWithoutFunction t => s!"PredicateSpecification requires a callable, got {t}"
  | badFieldName literal => s!"Field name must be a non-empty string, got {literal}"
  | noFilters => "FilterUtils.from_dict() requires a dict, got None"
  | noExample => "FilterUtils.from_example() requires an example, got None"
  | noEntityClass => "SqlAlchemyTranslator.translate() requires an entity class"

def context : Misuse → List (String × String)
  | missingOperand operation => [("operation", operation)]
  | mistypedOperand operation t => [("operation", operation), ("operand_type", t)]
  | _ => []

end Misuse

/-- Trees that a traversal cannot handle. -/
inductive Unsupported where
  /-- A node outside the grammar. -/
  | foreign (traversal : Traversal) (node : Expr)
  /-- A kind of node that the traversal does not know. -/
  | unknownKind (traversal : Traversal) (kind : NodeKind) (node : Expr)
  /-- A lambda whose binder was replaced by something that is no parameter. -/
  | binderLost (image lambda : Expr)
  /-- A constant other than a truth value in the place of a condition. -/
  | constantFilter (node : Expr)
  /-- A comparison that does not have a field on its left and a constant on its right. -/
  | notFieldComparison (node : Expr)
  /-- A field path that does not start at the lambda's parameter. -/
  | strayPath (start : Expr)
  /-- A parameter other than the lambda's own. -/
  | strayParameter (p : Param)
  | nestedMember (node : Expr) (root : String)
  | missingColumn (node : Expr) (name root : String)
  | constantOnLeft (node : Expr)
  | notBoolean (node : Expr)
  deriving Repr

namespace Unsupported

def message : Unsupported → String
  | foreign t node => s!"{node.className} is not an expression node {t.name} can traverse"
  | unknownKind t kind node => s!"{t.name} does not support '{kind.word}' expressions: {node.text}"
  | binderLost image _ => s!"Lambda parameter rewritten to a non-parameter node: {image.text}"
  | constantFilter node => s!"Constant {node.text} is not a filter"
  | notFieldComparison node => s!"Comparison '{node.text}' must compare a field with a constant"
  | strayPath start => s!"Field path does not start at the lambda parameter: {start.text}"
  | strayParameter p => s!"Parameter '{p.name.shown}' is not the lambda parameter"
  | nestedMember node root => s!"Nested member access '{node.text}' has no column on {root}"
  | missingColumn _ name root => s!"{root} has no mapped attribute '{name}'"
  | constantOnLeft node => s!"Comparison '{node.text}' must have the column on the left"
  | notBoolean node => s!"'{node.text}' does not translate to a boolean clause"

def context : Unsupported → List (String × String)
  | foreign t node => [("node", node.literal), ("visitor", t.name)]
  | unknownKind t kind node => [("node", node.text), ("kind", kind.word), ("visitor", t.name)]
  | binderLost _ lambda => [("node", lambda.text)]
  | constantFilter node | notFieldComparison node | constantOnLeft node | notBoolean node =>
    [("node", node.text)]
  | strayPath start => [("node", start.text)]
  | strayParameter p => [("parameter", (Expr.param p).literal)]
  | nestedMember node _ => [("member", node.text)]
  | missingColumn node _ root => [("member", node.text), ("root", root)]

/-- Why the message and the details cannot be written, if they cannot: they hold the node, or the two
nodes, that the complaint is about. -/
def fault? : Unsupported → Option Fault
  | foreign _ node => node.literalFault?
  | unknownKind _ _ node | constantFilter node | notFieldComparison node | strayPath node
  | nestedMember node _ | missingColumn node _ _ | constantOnLeft node | notBoolean node =>
    node.textFault?
  | binderLost image lambda => image.textFault?.or lambda.textFault?
  | strayParameter _ => none

end Unsupported

/-- Parameters outside the lambda that binds them. -/
inductive Unbound where
  /-- A reference met while compiling. -/
  | reference (p : Param)
  /-- The free parameters of a lambda that should have none. -/
  | free (names : List ParamName) (lambda : Expr)
  deriving Repr

namespace Unbound

def message : Unbound → String
  | reference p => s!"Parameter '{p.name.shown}' is not bound by any enclosing lambda"
  | free names _ =>
    "Expression references unbound parameter(s): " ++ ", ".intercalate (names.map (·.shown))

def context : Unbound → List (String × String)
  | reference p => [("parameter", (Expr.param p).literal)]
  | free _ lambda => [("expression", lambda.text)]

/-- Why the message and the details cannot be written, if they cannot: the names are joined, and the
lambda is written. -/
def fault? : Unbound → Option Fault
  | reference _ => none
  | free names lambda =>
    (names.zipIdx.findSome? fun (name, i) => name.otherType?.map (.joinOperand i)).or
      lambda.textFault?

end Unbound

/-- Why an operation failed. -/
inductive Error where
  | misuse (cause : Misuse)
  | unsupported (cause : Unsupported)
  | unbound (cause : Unbound)
  | fault (cause : Fault)
  deriving Repr

namespace Error

/-- What a traversal fails with at a tree that it cannot handle. The complaint is written at once, so a
tree that cannot be written is a fault of its own. -/
def ofUnsupported (cause : Unsupported) : Error := cause.fault?.elim (unsupported cause) fault

theorem ofUnsupported_of_written {cause : Unsupported} (h : cause.fault? = none) :
    ofUnsupported cause = unsupported cause := by
  rw [ofUnsupported, h, Option.elim_none]

theorem ofUnsupported_of_fault {cause : Unsupported} {f : Fault} (h : cause.fault? = some f) :
    ofUnsupported cause = fault f := by
  rw [ofUnsupported, h, Option.elim_some]

/-- What is raised about parameters without a lambda that binds them, likewise. -/
def ofUnbound (cause : Unbound) : Error := cause.fault?.elim (unbound cause) fault

def message : Error → String
  | misuse c => c.message
  | unsupported c => c.message
  | unbound c => c.message
  | fault f => f.message

/-- The details of an error, as named texts. -/
def context : Error → List (String × String)
  | misuse c => c.context
  | unsupported c => c.context
  | unbound c => c.context
  | fault _ => []

end Error

/-- The classes of errors that the library raises. -/
inductive ErrorClass where
  | base
  | validation
  | invalidArgument
  | expression
  | unsupportedExpression
  | unboundParameter
  deriving DecidableEq, Repr

namespace ErrorClass

def all : List ErrorClass :=
  [base, validation, invalidArgument, expression, unsupportedExpression, unboundParameter]

def name : ErrorClass → String
  | base => "SpecLogicException"
  | validation => "ValidationException"
  | invalidArgument => "InvalidArgumentException"
  | expression => "ExpressionException"
  | unsupportedExpression => "UnsupportedExpressionException"
  | unboundParameter => "UnboundParameterException"

def ofName? (n : String) : Option ErrorClass := all.find? fun c => c.name == n

/-- The class that a class refines. -/
def parent? : ErrorClass → Option ErrorClass
  | base => none
  | validation | expression => some base
  | invalidArgument => some validation
  | unsupportedExpression | unboundParameter => some expression

/-- The code that every error of a class carries; the general classes leave it to the caller. -/
def code? : ErrorClass → Option String
  | invalidArgument => some "SPEC_INVALID_ARGUMENT"
  | unsupportedExpression => some "EXPR_UNSUPPORTED_NODE"
  | unboundParameter => some "EXPR_UNBOUND_PARAMETER"
  | _ => none

/-- The name that messages give to the making of an error; the two general classes share that of the
root. -/
def signature (c : ErrorClass) : String :=
  (if c.code?.isSome then c.name else base.name) ++ ".__init__"

/-- The class and all those it refines, down to the root of all errors. -/
def ancestors (c : ErrorClass) : List String :=
  let parents := match c.parent? with
    | none => []
    | some p => p.name :: (p.parent?.map name).toList
  c.name :: parents ++ ["Exception"]

end ErrorClass

/-- The class of an error; a fault of evaluation belongs to none of them. -/
def Error.class? : Error → Option ErrorClass
  | .misuse _ => some .invalidArgument
  | .unsupported _ => some .unsupportedExpression
  | .unbound _ => some .unboundParameter
  | .fault _ => none

/-- An error of a chosen class with a message, a code and a context of the caller's own. -/
structure Report where
  kind : ErrorClass
  message : Value
  code : Value
  context : Value
  deriving Repr

/-- The report built from a message and named arguments. A class with a code of its own takes only a
context; without a context there is an empty one. -/
def Report.build (kind : ErrorClass) (message : Value) (args : List (String × Value)) :
    Except Fault Report :=
  let allowed := if kind.code?.isSome then ["context"] else ["code", "context"]
  match args.find? fun a => !allowed.contains a.1 with
  | some (name, _) =>
    if name == "self" || name == "message" then .error (.repeatedArgument kind.signature name)
    else .error (.unexpectedArgument kind.signature name)
  | none =>
    let argument (name : String) : Value := ((args.find? (·.1 == name)).map (·.2)).getD .none
    let context := argument "context"
    .ok {
      kind, message
      code := match kind.code? with
        | some code => .str code
        | none => argument "code"
      context := if context.isNone then .map [] else context }

end Criteria
