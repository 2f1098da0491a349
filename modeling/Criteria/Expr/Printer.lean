import Criteria.Expr.Basic
import Criteria.Fault

/-!
# The text of expressions

`Expr.text` writes a tree the way one would say it, with the names of its parameters; `Expr.literal`
writes its construction. In the latter a parameter shows that it has an identity, but not which.

Not every tree can be written: an integer of too many digits has no text, and a parameter whose name is
none does not stand for one either. `Expr.textFault?` and `Expr.literalFault?` are the first fault that
writing a tree in one or the other form meets.
-/

namespace Criteria

/-- The name in the construction of a parameter. -/
def ParamName.literal : ParamName → String
  | text s => Text.quote s
  | other _ shown => shown

/-- How a call names its function: by its label if that is not empty, else by the function's own
name. -/
def Callee.shown (f : Callee) (label : Option String) : String :=
  let ownName := match f with
    | .function r => r.shown
    | .value d => d.value.literal
  match label with
  | some l => if l.isEmpty then ownName else l
  | none => ownName

namespace Expr

mutual

/-- The tree as one would say it. -/
def text : Expr → String
  | param p => p.name.shown
  | const d => d.value.literal
  | member target name => target.text ++ "." ++ name
  | call f args label => f.shown label ++ "(" ++ ", ".intercalate (texts args) ++ ")"
  | compare op l r => "(" ++ l.text ++ " " ++ op.symbol ++ " " ++ r.text ++ ")"
  | and l r => "(" ++ l.text ++ " and " ++ r.text ++ ")"
  | or l r => "(" ++ l.text ++ " or " ++ r.text ++ ")"
  | not e => "not " ++ e.text
  | cond test yes no => "(" ++ yes.text ++ " if " ++ test.text ++ " else " ++ no.text ++ ")"
  | lambda binder body => "lambda " ++ binder.text ++ ": " ++ body.text
  | tagged target name _ => target.text ++ "." ++ name
  | unknown (.node _ payload) => "Unknown(payload=" ++ payload.value.literal ++ ")"
  | unknown (.constant _ d _) => d.value.literal
  | raw d => d.value.text

def texts : List Expr → List String
  | [] => []
  | e :: es => e.text :: texts es

end

mutual

/-- The construction of the tree. -/
def literal : Expr → String
  | param p => "Parameter(" ++ p.name.literal ++ ", id=0x?)"
  | const d => "Constant(value=" ++ d.value.literal ++ ")"
  | member target name => "Member(target=" ++ target.literal ++ ", name=" ++ Text.quote name ++ ")"
  | call f args label =>
    let function := match f with
      | .function r => r.literal
      | .value d => d.value.literal
    let arguments := match literals args with
      | [one] => "(" ++ one ++ ",)"
      | all => "(" ++ ", ".intercalate all ++ ")"
    "Call(function=" ++ function ++ ", arguments=" ++ arguments ++ ", label=" ++
      (match label with
        | some l => Text.quote l
        | none => "None") ++ ")"
  | compare op l r =>
    "Compare(operator=<CompareOperator." ++ op.listName ++ ": " ++ Text.quote op.word ++
      ">, left=" ++ l.literal ++ ", right=" ++ r.literal ++ ")"
  | and l r => "AndAlso(left=" ++ l.literal ++ ", right=" ++ r.literal ++ ")"
  | or l r => "OrElse(left=" ++ l.literal ++ ", right=" ++ r.literal ++ ")"
  | not e => "Not(operand=" ++ e.literal ++ ")"
  | cond test yes no =>
    "Conditional(test=" ++ test.literal ++ ", if_true=" ++ yes.literal ++ ", if_false=" ++
      no.literal ++ ")"
  | lambda binder body => "Lambda(parameter=" ++ binder.literal ++ ", body=" ++ body.literal ++ ")"
  | tagged target name tag =>
    "TaggedMember(target=" ++ target.literal ++ ", name=" ++ Text.quote name ++ ", tag=" ++
      Text.quote tag ++ ")"
  | unknown (.node _ payload) => "Unknown(payload=" ++ payload.value.literal ++ ")"
  | unknown (.constant _ d tag) =>
    "TaggedConstant(value=" ++ d.value.literal ++ ", tag=" ++ Text.quote tag ++ ")"
  | raw d => d.value.literal

def literals : List Expr → List String
  | [] => []
  | e :: es => e.literal :: literals es

end

end Expr

/-! ## What cannot be written -/

/-- Why a name does not stand for itself in the text of a tree. -/
def ParamName.fault? (name : ParamName) : Option Fault := name.otherType?.map .unwritableName

/-- Why what is called cannot be named. The label, if there is one, is enough. -/
def Callee.shownFault? (f : Callee) (label : Option String) : Option Fault :=
  match f, label with
  | .function _, _ => none
  | .value d, some l => if l.isEmpty then d.value.fault? else none
  | .value d, none => d.value.fault?

namespace Expr

mutual

/-- Why the tree has no text, if it has none. -/
def textFault? : Expr → Option Fault
  | param p => p.name.fault?
  | const d => d.value.fault?
  | member e _ | tagged e _ _ | not e => e.textFault?
  | call f args label => (f.shownFault? label).or (textsFault? args)
  | compare _ l r | and l r | or l r => l.textFault?.or r.textFault?
  | cond test yes no => yes.textFault?.or (test.textFault?.or no.textFault?)
  | lambda binder body => binder.textFault?.or body.textFault?
  | unknown f => f.datum.value.fault?
  | raw d => d.value.fault?

def textsFault? : List Expr → Option Fault
  | [] => none
  | e :: es => e.textFault?.or (textsFault? es)

end

mutual

/-- Why the construction of the tree cannot be written, if it cannot. -/
def literalFault? : Expr → Option Fault
  | param _ => none
  | const d => d.value.fault?
  | member e _ | tagged e _ _ | not e => e.literalFault?
  | call f args _ => (f.shownFault? none).or (literalsFault? args)
  | compare _ l r | and l r | or l r | lambda l r => l.literalFault?.or r.literalFault?
  | cond test yes no => test.literalFault?.or (yes.literalFault?.or no.literalFault?)
  | unknown f => f.datum.value.fault?
  | raw d => d.value.fault?

def literalsFault? : List Expr → Option Fault
  | [] => none
  | e :: es => e.literalFault?.or (literalsFault? es)

end

/-- The text of the tree, or why it has none. -/
def written (e : Expr) : Except Fault String := e.textFault?.elim (.ok e.text) .error

end Expr

end Criteria
