import Criteria.Expr.Equality
import Criteria.Spec.Example
import Criteria.Spec.Field
import Criteria.Spec.Satisfy

/-!
# Specifications as objects

Two specifications built in the same way are equal and yet two objects. An `Object` is a
specification, a tree, a compiled specification or a plain value together with a `Mark` that says
which object it is, and which objects its operands are.

* `Object.join` and `Object.combine` are the operations of the algebra on objects; an operand that
  is left out leaves the other one itself. `Object.operate` and `Object.invert` write them as
  operators, which plain values have too.
* `Object.part` is a named part of an object, an object itself.
* `Object.same` is identity, `Object.equal` equality, `Object.hashable` says whether an object may
  be a key.
-/

namespace Criteria

/-- Which object something is: the one with a number, with the marks of its operands, or a part of
another object. -/
inductive Mark where
  | node (serial : Nat) (operands : List Mark)
  | part (whole : Mark) (index : Nat)
  deriving Repr, Inhabited

namespace Mark

def operands : Mark → List Mark
  | node _ ms => ms
  | part .. => []

/-- Whether two marks are of one object. -/
def same : Mark → Mark → Bool
  | node m _, node n _ => m == n
  | part a i, part b j => i == j && a.same b
  | _, _ => false

/-- The mark of the neutral element, of which there is only one, and of its lambda. -/
def universal : Mark := node 0 [node 0 []]

end Mark

/-- Something an operation of the algebra may be given. -/
inductive Object where
  | spec (s : Spec) (mark : Mark)
  | tree (e : Expr) (mark : Mark)
  | value (d : Datum)
  | compiled (c : CompiledSpec) (mark : Mark)

namespace Spec

/-- Whether two specifications are equal: leaves by what they hold, combinations by their operands.
A leaf that makes a new lambda each time equals itself alone. -/
def alike : Spec → Spec → Bool
  | everything, everything => true
  | tree l, tree m => l.toExpr.alike m.toExpr
  | predicate f label _, predicate g label' _ => f.key == g.key && label == label'
  | template p _, template q _ => p == q
  | combine c l r, combine c' l' r' => c == c' && l.alike l' && r.alike r'
  | negated s, negated t => s.alike t
  | _, _ => false

/-- Whether the specification may be a key: it may if its trees may. -/
def hashable : Spec → Except Fault Unit
  | tree l => l.toExpr.hashable
  | combine _ l r => do
    l.hashable
    r.hashable
  | negated s => s.hashable
  | _ => .ok ()

/-- The construction of the specification. -/
def literal : Spec → String
  | everything => "Specification.IDENTITY"
  | tree l => "ExpressionSpecification(expression=" ++ l.toExpr.literal ++ ")"
  | predicate f label _ =>
    "PredicateSpecification(predicate=" ++ f.literal ++ ", label=" ++
      (match label with
        | some l => Text.quote l
        | none => "None") ++ ")"
  | template .. => "<CustomLeaf>"
  | combine c l r => c.className ++ "(left=" ++ l.literal ++ ", right=" ++ r.literal ++ ")"
  | negated s => "NegatedSpecification(specification=" ++ s.literal ++ ")"

/-- Why the construction cannot be written, if it cannot: because of a tree in it. -/
def literalFault? : Spec → Option Fault
  | tree l => l.toExpr.literalFault?
  | combine _ l r => l.literalFault?.or r.literalFault?
  | negated s => s.literalFault?
  | everything | predicate .. | template .. => none

end Spec

namespace Object

/-- A new object for a tree. A value stays the object it is. -/
def ofExpr : Expr → Build Object
  | .raw d => return .value d
  | e => return .tree e (.node (← Build.allocate) [])

/-- A new object for a leaf, whose tree, if it shows one, is the object with the given mark. -/
def ofLeaf (s : Spec) (inner : Option Mark) : Build Object :=
  match s with
  | .everything => return .spec s .universal
  | s => do
    let n ← Build.allocate
    let inner ← match inner with
      | some m => pure m
      | none => return .spec s (.node n [.node (← Build.allocate) []])
    return .spec s (.node n [inner])

/-- The leaf over a tree. -/
def leaf : Object → Build Object
  | .tree e mark => do
    let s ← Spec.ofExpr e
    ofLeaf s (some mark)
  | .spec s _ => throw (.misuse (.leafWithoutLambda s.className))
  | .value d => throw (.misuse (.leafWithoutLambda d.value.className))
  | .compiled .. => throw (.misuse (.leafWithoutLambda "CompiledSpecification"))

def className : Object → String
  | spec s _ => s.className
  | tree e _ => e.className
  | value d => d.value.className
  | compiled .. => "CompiledSpecification"

/-- The specification that an operation asks for. -/
def require (operation : String) : Object → Except Error (Spec × Mark)
  | spec s mark => .ok (s, mark)
  | value ⟨.none, _⟩ => .error (.misuse (.missingOperand operation))
  | o => .error (.misuse (.mistypedOperand operation o.className))

/-- The name of an object's type in messages about what the type lacks. -/
def typeName : Object → String
  | value d => d.value.typeName
  | o => o.className

/-- The specification that an operation is asked of. -/
def receiver (operation : String) : Object → Except Error (Spec × Mark)
  | spec s mark => .ok (s, mark)
  | o => .error (.fault (.missingAttribute o.typeName operation))

/-- The combination, made directly. -/
def combine (c : Combination) (left right : Object) : Build Object := do
  let (l, lm) ← left.require c.operation
  let (r, rm) ← right.require c.operation
  return .spec (.combine c l r) (.node (← Build.allocate) [lm, rm])

/-- The combination by the operation of the left object, which leaves the neutral element out. -/
def join (c : Combination) (left right : Object) : Build Object := do
  let (l, lm) ← left.receiver c.operation
  let (r, rm) ← right.require c.operation
  let joined := l.join c r
  if l.isEverything then return .spec joined rm
  else if r.isEverything then return .spec joined lm
  else return .spec joined (.node (← Build.allocate) [lm, rm])

/-- The negation, made directly. -/
def negate (o : Object) : Build Object := do
  let (s, mark) ← o.require "not_"
  return .spec (.negated s) (.node (← Build.allocate) [mark])

/-- The negation by the object's own operation. -/
def complement (o : Object) : Build Object := do
  let (s, mark) ← o.receiver "not_"
  return .spec (.negated s) (.node (← Build.allocate) [mark])

/-- The lambda of a specification, as an object. A leaf over a tree and the neutral element show the
lambda they hold; every other specification makes a new one. -/
def toLambda (o : Object) : Build (Lambda × Mark) := do
  let (s, mark) ← o.receiver "to_expression"
  let l ← s.toLambda
  match s, mark.operands with
  | .everything, [inner] | .tree _, [inner] => return (l, inner)
  | _, _ => return (l, .node (← Build.allocate) [])

/-- An object that is known by its value. -/
def plain (v : Value) : Object := .value ⟨v, ⟨0, []⟩⟩

/-- An operation of an object. -/
def operation : Object := plain (.thing "method")

/-- The number that stands for a pattern of bits under an operation on such patterns; negative
numbers have infinitely many leading ones. -/
def bitwise (f : Nat → Nat → Nat) (a b : Int) : Int :=
  let half : Nat := Nat.pow 2 (a.natAbs.log2 + b.natAbs.log2 + 2)
  let bits (n : Int) : Nat := (n % (2 * half : Nat)).toNat
  let r := f (bits a) (bits b)
  if r < half then r else (r : Int) - (2 * half : Nat)

/-- The operator of a combination between two objects. Specifications combine, whole numbers combine
bit by bit, and mappings can be joined. -/
def operate (c : Combination) (left right : Object) : Build Object :=
  match left with
  | .spec .. => left.join c right
  | _ =>
    let bare : Object → Object
      | .value d => .value (if c == .or then d.uncovered else d)
      | o => o
    let fault : Fault := .unsupportedOperands (if c == .or then "|" else "&")
      (bare left).typeName (bare right).typeName
    match bare left, bare right with
    | .value ⟨.bool a, _⟩, .value ⟨.bool b, _⟩ =>
      return plain (.bool (if c == .or then a || b else a && b))
    | .value ⟨.map es, _⟩, .value ⟨.map fs, _⟩ =>
      let joined := fs.foldl (fun all e => Value.insertEntry all e.1 e.2) es
      if c == .or then return plain (.map joined) else throw (.fault fault)
    | .value a, .value b =>
      match a.value.number?, b.value.number? with
      | some (.int m), some (.int n) =>
        return plain (.int (bitwise (if c == .or then Nat.lor else Nat.land) m n))
      | _, _ => throw (.fault fault)
    | _, _ => throw (.fault fault)

/-- The operator of the complement. -/
def invert (o : Object) : Build Object :=
  match o with
  | .spec .. => o.complement
  | .value d =>
    match d.value.number? with
    | some (.int n) => return plain (.int (-n - 1))
    | _ => throw (.fault (.badOperand "~" o.typeName))
  | _ => throw (.fault (.badOperand "~" o.typeName))

/-- The node that is a named part of a node, with its place among the parts. -/
def nodePart? : Expr → String → Option (Nat × Expr)
  | .lambda b _, "parameter" => some (0, b)
  | .lambda _ e, "body" => some (1, e)
  | .member t _, "target" | .tagged t _ _, "target" => some (0, t)
  | .compare _ l _, "left" | .and l _, "left" | .or l _, "left" => some (0, l)
  | .compare _ _ r, "right" | .and _ r, "right" | .or _ r, "right" => some (1, r)
  | .not e, "operand" => some (0, e)
  | .cond t _ _, "test" => some (0, t)
  | .cond _ y _, "if_true" => some (1, y)
  | .cond _ _ n, "if_false" => some (2, n)
  | _, _ => none

/-- What else a node holds under a name. -/
def plainPart? : Expr → String → Option Object
  | .param p, "name" =>
    some (plain (match p.name with
      | .text s => .str s
      | .other typeName _ => .thing typeName))
  | .member _ n, "name" | .tagged _ n _, "name" => some (plain (.str n))
  | .tagged _ _ t, "tag" | .unknown (.constant _ _ t), "tag" => some (plain (.str t))
  | .const d, "value" | .unknown (.constant _ d _), "value" | .unknown (.node _ d), "payload" =>
    some (.value d)
  | .compare .., "operator" => some (plain (.thing "CompareOperator"))
  | .call (.function _) _ _, "function" => some (plain (.thing "function"))
  | .call (.value d) _ _, "function" => some (.value d)
  | .call .., "arguments" => some (plain (.thing "tuple"))
  | .call _ _ label, "label" => some (plain ((label.map .str).getD .none))
  | .lambda .., "free_parameters" | _, "children" | _, "walk" => some operation
  | _, _ => none

/-- The operations that every specification has. -/
def specOperations : List String :=
  ["and_", "or_", "nand", "nor", "not_", "compile", "is_satisfied_by", "to_expression"]

/-- A named part of a specification. -/
def specPart? (s : Spec) (mark : Mark) (name : String) : Option Object :=
  match s, mark.operands, name with
  | .combine _ l _, [lm, _], "left" => some (.spec l lm)
  | .combine _ _ r, [_, rm], "right" => some (.spec r rm)
  | .combine c _ _, _, "operation" => some (plain (.str c.operation))
  | .negated s, [inner], "specification" => some (.spec s inner)
  | .tree l, [inner], "expression" => some (.tree l.toExpr inner)
  | .predicate .., _, "predicate" => some (plain (.thing "function"))
  | .predicate _ label _, _, "label" => some (plain ((label.map .str).getD .none))
  | .predicate _ _ p, _, "_parameter" => some (.tree (.param p) (.part mark 0))
  | _, _, "IDENTITY" => some (.spec .everything .universal)
  | _, _, name => if specOperations.contains name then some operation else none

/-- A named part of an object. -/
def part? (o : Object) (name : String) : Option Object :=
  match o with
  | .spec s mark => specPart? s mark name
  | .value d => (d.attribute? name).map .value
  | .compiled c mark =>
    match mark.operands, name with
    | [inner], "specification" => some (.spec c.spec inner)
    | _, "filter" | _, "count" => some operation
    | _, _ => none
  | .tree e mark =>
    match nodePart? e name with
    | some (_, .raw d) => some (.value d)
    | some (i, part) => some (.tree part (.part mark i))
    | none => plainPart? e name

/-- The named part of an object that should have it. -/
def part (o : Object) (name : String) : Except Fault Object :=
  match o.part? name with
  | some p => .ok p
  | none => .error (.missingAttribute o.typeName name)

/-- The compilation of a specification. -/
def compile (properties : EvaluationProperties) (o : Object) : Build (CompiledSpec × Mark) := do
  let (s, mark) ← o.require "compile"
  let c ← s.compile properties
  return (c, .node (← Build.allocate) [mark])

/-- The compiled specification that an operation is asked of. -/
def selector (operation : String) : Object → Except Fault CompiledSpec
  | compiled c _ => .ok c
  | o => .error (.missingAttribute o.typeName operation)

/-- The compiled specification that is called. -/
def condition : Object → Except Fault CompiledSpec
  | compiled c _ => .ok c
  | o => .error (.notCallable o.typeName)

/-- Whether two objects are one; a parameter is one object wherever it stands. -/
def same : Object → Object → Bool
  | spec _ m, spec _ n | compiled _ m, compiled _ n => m.same n
  | tree (.param p) _, tree (.param q) _ => p == q
  | tree _ m, tree _ n => m.same n
  | value a, value b => a.same b
  | _, _ => false

/-- Whether two objects are equal. -/
def equal : Object → Object → Bool
  | spec s _, spec t _ => s.alike t
  | tree e _, tree f _ => e.alike f
  | value a, value b => a.eq b
  | compiled _ m, compiled _ n => m.same n
  | _, _ => false

def hashable : Object → Except Fault Unit
  | spec s _ => s.hashable
  | tree e _ => e.hashable
  | value d => d.value.hashable
  | compiled c _ => c.spec.hashable

/-- The construction of a compiled specification, whose condition is a function. -/
def constructed (c : CompiledSpec) : String :=
  "CompiledSpecification(specification=" ++ c.spec.literal ++ ", _predicate=<function>)"

/-- The construction of the object, or why it cannot be written. -/
def literal : Object → Except Fault String
  | spec s _ => s.literalFault?.elim (.ok s.literal) .error
  | tree e _ => e.literalFault?.elim (.ok e.literal) .error
  | value d => d.value.fault?.elim (.ok d.value.literal) .error
  | compiled c _ => c.spec.literalFault?.elim (.ok (constructed c)) .error

/-- The object as one would say it. A specification is shown by its construction. -/
def text : Object → Except Fault String
  | tree e _ => e.written
  | value d => d.value.written
  | o => o.literal

/-- The lambda to turn into a query: that of a specification, or a lambda itself. -/
def lambda : Object → Build Lambda
  | spec s _ => s.toLambda
  | tree (.lambda binder body) _ => return ⟨binder, body⟩
  | o => throw (.misuse (.noLambda o.className))

end Object

end Criteria
