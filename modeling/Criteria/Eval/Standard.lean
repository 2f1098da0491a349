import Criteria.Eval.Script
import Criteria.Eval.Template
import Criteria.Text.Quoted
import Criteria.Value.Access

/-!
# The standard functions

The functions that come with the library: enough to inspect, combine and aggregate values, to apply
a function that was handed in, and to fail on purpose. `Standard.host` maps keys to them, and
`Standard.reference?` gives the reference under which a tree calls one.
-/

namespace Criteria.Standard

/-- The script that goes on with a checked value. -/
def check {α : Type} (r : Except Fault α) (next : α → Script) : Script :=
  match r with
  | .ok a => next a
  | .error f => .fail f

/-- Hands exactly the named arguments on, or fails as a call with the wrong number of them does. -/
def withArguments (function : String) (names : List String) (args : List Arg)
    (body : List Arg → Script) : Script :=
  if args.length < names.length then
    .fail (.missingArguments function (names.drop args.length))
  else if names.length < args.length then
    .fail (.extraArguments function names.length args.length)
  else body args

/-- The sum of two numbers, or the concatenation of two texts or sequences of one type. The items of a
concatenation count as new objects. -/
def sum (a b : Value) : Except Fault Value :=
  match a, b with
  | .str s, .str t => .ok (.str (s ++ t))
  | .bytes s, .bytes t => .ok (.bytes (s ++ t))
  | .list s, .list t => .ok (.list (s ++ t))
  | .tuple s, .tuple t => .ok (.tuple (s ++ t))
  | .str _, _ | .bytes _, _ | .list _, _ | .tuple _, _ =>
    .error (.concatenation a.typeName b.typeName)
  | _, _ =>
    match a.number?, b.number? with
    | some (.int m), some (.int n) => .ok (.int (m + n))
    | some m, some n =>
      let overflows (k : Number) : Bool :=
        match k with
        | .int i => match (Binary64.ofInt i).view with
          | .infinite _ => true
          | _ => false
        | .float _ => false
      if overflows m || overflows n then .error .integerTooLarge
      else .ok (.float (m.toBinary64.add n.toBinary64))
    | _, _ => .error (.unsupportedOperands "+" a.typeName b.typeName)

/-- The operand that a sum is itself: the other one is empty and of the same type. -/
def soleOperand? (a b : Datum) : Option Datum :=
  match a.value, b.value with
  | .str s, .str t => if s.isEmpty then some b else if t.isEmpty then some a else none
  | .bytes s, .bytes t => if s.isEmpty then some b else if t.isEmpty then some a else none
  | .tuple s, .tuple t => if s.isEmpty then some b else if t.isEmpty then some a else none
  | _, _ => none

def add : List Arg → Script
  | [.datum a, .datum b] =>
    match soleOperand? a b with
    | some d => .answer (.datum d)
    | none => check (sum a.value b.value) fun v => .fresh v .answer
  | [a, b] =>
    .fail (match a with
      | .datum ⟨.str _, _⟩ | .datum ⟨.bytes _, _⟩ | .datum ⟨.list _, _⟩ | .datum ⟨.tuple _, _⟩ =>
        .concatenation a.typeName b.typeName
      | _ => .unsupportedOperands "+" a.typeName b.typeName)
  | _ => .answer (.ofBool false)

/-- Calls `f` on each item in turn and folds the truth of the answers: `step` tells what to go on
with, or that the result is known. -/
def foldCalls (f : Arg) (step : Nat → Bool → Except Arg Nat) (finish : Nat → Script) :
    Nat → List Datum → Script
  | n, [] => finish n
  | n, x :: xs =>
    .call f (.datum x) fun r =>
      match r with
      | .error e => .fail e
      | .ok a =>
        match step n a.truthy with
        | .error result => .answer result
        | .ok n => foldCalls f step finish n xs

/-- The items of an argument. -/
def items : Arg → Except Fault (List Datum)
  | .datum d => d.iterate
  | .handle _ => .error (.notIterable "function")

/-- Whether some item, or every one, satisfies the function; the first decisive answer ends the
search. -/
def search (decisive : Bool) : List Arg → Script
  | [xs, f] =>
    check (items xs) fun ds =>
      foldCalls f (fun n b => if b == decisive then .error (.ofBool decisive) else .ok n)
        (fun _ => .answer (.ofBool !decisive)) 0 ds
  | _ => .answer (.ofBool false)

/-- The number of items that satisfy the function. -/
def countOf : List Arg → Script
  | [xs, f] =>
    check (items xs) fun ds =>
      foldCalls f (fun n b => .ok (if b then n + 1 else n))
        (fun n => .fresh (.int n) .answer) 0 ds
  | _ => .answer (.ofBool false)

def applyTo : List Arg → Script
  | [f, x] =>
    .call f x fun r =>
      match r with
      | .ok a => .answer a
      | .error e => .fail e
  | _ => .answer (.ofBool false)

/-- Whether the remainder of a value by two is zero; a text is a template to be filled with two. -/
def evenNumber (v : Value) : Except Fault Bool :=
  match v, v.number? with
  | _, some n => .ok n.isEven
  | .str s, none => (Template.check .text s.toList).map fun _ => false
  | .bytes b, none => (Template.check .bytes (b.map fun x => Char.ofNat x.toNat)).map fun _ => false
  | v, none => .error (.unsupportedOperands "%" v.typeName "int")

/-- The entry of a mapping under a text key. -/
def subscript (a : Arg) (key : String) : Except Fault Datum :=
  match a with
  | .handle _ => .error (.notSubscriptable "function")
  | .datum d =>
    match d.value with
    | .map _ | .view _ =>
      match d.lookup? key with
      | some part => .ok part
      | none => .error (.missingKey (.str key))
    | .str _ | .bytes _ | .list _ | .tuple _ => .error (.badIndex d.value.typeName "str")
    | v => .error (.notSubscriptable v.typeName)

def evenAge : List Arg → Script
  | [e] =>
    check (subscript e "age") fun d =>
      check (evenNumber d.value) fun b => .answer (.ofBool b)
  | _ => .answer (.ofBool false)

def isActive : List Arg → Script
  | [.datum d] =>
    match d.attribute? "active" with
    | some part => .answer (.datum part)
    | none => .fail (.missingAttribute d.value.typeName "active")
  | [a] => .fail (.missingAttribute a.typeName "active")
  | _ => .answer (.ofBool false)

/-- A position in a text of the given length: a negative one counts from the end, and where none is
given the default holds. -/
def position (length default : Nat) : Arg → Except Fault Int
  | .datum d =>
    match d.value, d.value.number? with
    | .none, _ => .ok default
    | _, some (.int n) => .ok (if n < 0 then max 0 (n + length) else n)
    | _, _ => .error .notAnIndex
  | .handle _ => .error .notAnIndex

/-- Whether a text starts with another one between two positions. -/
def startsBetween (cs start : List Char) (first last : Int) : Bool :=
  first + start.length ≤ min last cs.length && start.isPrefixOf (cs.drop first.toNat)

/-- Whether a text starts with one of the items; the first that does not fit ends the search. -/
def startsWithAny (holds : String → Bool) : List Value → Except Fault Bool
  | [] => .ok false
  | .str s :: vs => if holds s then .ok true else startsWithAny holds vs
  | v :: _ =>
    .error (.wrongCandidate s!"tuple for startswith must only contain str, not {v.typeName}")

def startsWith : List Arg → Script
  | [] => .fail (.wrongCandidate "unbound method str.startswith() needs an argument")
  | .datum ⟨.str s, _⟩ :: args =>
    if args.isEmpty then
      .fail (.wrongCandidate "startswith() takes at least 1 argument (0 given)")
    else if 3 < args.length then
      .fail (.wrongCandidate s!"startswith() takes at most 3 arguments ({args.length} given)")
    else
      let given (i : Nat) : Arg := args.getD i (.datum ⟨.none, ⟨0, []⟩⟩)
      let cs := s.toList
      check (position cs.length 0 (given 1)) fun first =>
        check (position cs.length cs.length (given 2)) fun last =>
          let holds (start : String) : Bool := startsBetween cs start.toList first last
          match given 0 with
          | .datum ⟨.str start, _⟩ => .answer (.ofBool (holds start))
          | .datum ⟨.tuple vs, _⟩ => check (startsWithAny holds vs) fun b => .answer (.ofBool b)
          | a => .fail (.wrongCandidate
              s!"startswith first arg must be str or a tuple of str, not {a.typeName}")
  | a :: _ => .fail (.notMethodOf "startswith" "str" a.typeName)

/-- The number of parts of a value. -/
def size : Value → Except Fault Nat
  | .str s => .ok s.length
  | .bytes b => .ok b.length
  | .list vs | .tuple vs | .set vs => .ok vs.length
  | .map es | .view es => .ok es.length
  | v => .error (.noLength v.typeName)

def length : List Arg → Script
  | [.datum d] => check (size d.value) fun n => .fresh (.int n) .answer
  | [a] => .fail (.noLength a.typeName)
  | args => .fail (.argumentCount "len" "exactly one argument" args.length)

/-- The standard functions by key. -/
def host : Host
  | "identity", args => withArguments "identity" ["x"] args fun as => .answer (as.headD default)
  | "trace", args => withArguments "trace" ["tag", "x"] args fun as =>
    .record (as.headD default) (.answer (as.getD 1 default))
  | "add", args => withArguments "add" ["a", "b"] args add
  | "any_of", args => withArguments "any_of" ["items", "pred"] args (search true)
  | "all_of", args => withArguments "all_of" ["items", "pred"] args (search false)
  | "count_of", args => withArguments "count_of" ["items", "pred"] args countOf
  | "apply", args => withArguments "apply" ["fn", "x"] args applyTo
  | "boom", _ => .fail (.raised "boom")
  | "const_true", _ => .answer (.ofBool true)
  | "even_age", args => withArguments "<lambda>" ["e"] args evenAge
  | "is_active", args => withArguments "<lambda>" ["e"] args isActive
  | "anonymous", args => withArguments "anonymous" ["x"] args fun as =>
    .answer (.ofBool (as.headD default).truthy)
  | "startswith", args => startsWith args
  | "len", args => length args
  | _, _ => .answer (.ofBool false)

/-- The keys of the standard functions. -/
def keys : List String :=
  ["identity", "trace", "add", "any_of", "all_of", "count_of", "apply", "boom", "const_true",
    "even_age", "is_active", "anonymous", "startswith", "len"]

/-- The reference to a standard function. Two of them have no name of their own to show. -/
def reference? (key : String) : Option FunctionRef :=
  if !keys.contains key then none
  else some (
    match key with
    | "even_age" | "is_active" => ⟨key, "<lambda>", "<function <lambda> at 0x?>"⟩
    | "anonymous" => ⟨key, "<anonymous>", "<anonymous>"⟩
    | "startswith" => ⟨key, key, "<method 'startswith' of 'str' objects>"⟩
    | "len" => ⟨key, key, "<built-in function len>"⟩
    | _ => ⟨key, key, "<function " ++ key ++ " at 0x?>"⟩)

end Criteria.Standard
