import Criteria.Fault
import Criteria.Value.Equality

/-!
# The order of values

Numbers are ordered by their exact value, texts by code point, bytes by value, stamps in time, and two
lists or two tuples by their first differing item, else by length. Sets are ordered by inclusion. Every
other pair has no order, and asking for it is a fault.
-/

namespace Criteria

/-- The four inequalities. -/
inductive Inequality where
  | lt
  | le
  | gt
  | ge
  deriving DecidableEq, Repr

namespace Inequality

/-- Whether the inequality holds of operands in the given order. -/
def holds : Inequality → Ordering → Bool
  | lt, o => o == .lt
  | le, o => o != .gt
  | gt, o => o == .gt
  | ge, o => o != .lt

def symbol : Inequality → String
  | lt => "<"
  | le => "<="
  | gt => ">"
  | ge => ">="

/-- The same inequality read from right to left. -/
def flip : Inequality → Inequality
  | lt => gt
  | le => ge
  | gt => lt
  | ge => le

end Inequality

/-- The lexicographic order of two lists. -/
def lexicographic {α : Type} [Ord α] : List α → List α → Ordering
  | [], [] => .eq
  | [], _ :: _ => .lt
  | _ :: _, [] => .gt
  | x :: xs, y :: ys =>
    match Ord.compare x y with
    | .eq => lexicographic xs ys
    | o => o

/-- The order of texts: by code point. -/
def compareText (s t : String) : Ordering :=
  lexicographic (s.toList.map Text.codePoint) (t.toList.map Text.codePoint)

/-- The fault for two values without an order. A read-only mapping hands the question to the mapping
behind it, and as a right operand it asks it the other way round. -/
def Value.unordered (op : Inequality) (v w : Value) : Fault :=
  let name (u : Value) : String := if u.mapping?.isSome then "dict" else u.typeName
  match v, w with
  | .stamp (.date _), .stamp (.moment ..) | .stamp (.moment ..), .stamp (.date _) => .unorderedDay
  | .stamp (.moment ..), .stamp (.moment ..) => .unorderedOffsets
  | _, .view _ => .unordered op.flip.symbol "dict" (name v)
  | .view _, _ => .unordered op.symbol "dict" (name w)
  | .record _, .record _ => .unordered op.symbol "dict" "dict"
  | _, _ => .unordered op.symbol v.typeName w.typeName

/-- Whether the inequality holds of two sets: the lesser one is a part of the greater. -/
def Value.orderedSets (op : Inequality) (xs ys : List Value) : Bool :=
  match op with
  | .lt => xs.length < ys.length && Value.allAmong xs ys
  | .le => xs.length ≤ ys.length && Value.allAmong xs ys
  | .gt => ys.length < xs.length && Value.allAmong ys xs
  | .ge => ys.length ≤ xs.length && Value.allAmong ys xs

mutual

/-- Whether the inequality holds of two different objects. -/
def Value.ordered (op : Inequality) : Value → Value → Except Fault Bool
  | .list xs, .list ys => Value.orderedItems op xs ys
  | .tuple xs, .tuple ys => Value.orderedItems op xs ys
  | .str s, .str t => .ok (op.holds (compareText s t))
  | .bytes s, .bytes t =>
    .ok (op.holds (lexicographic (s.map (·.toNat)) (t.map (·.toNat))))
  | .set xs, .set ys => .ok (Value.orderedSets op xs ys)
  | .stamp s, .stamp t =>
    match s.compare? t with
    | some o => .ok (op.holds o)
    | .none => .error (Value.unordered op (.stamp s) (.stamp t))
  | v, w =>
    match v.number?, w.number? with
    | some a, some b => .ok ((a.compare? b).any op.holds)
    | _, _ => .error (Value.unordered op v w)
termination_by structural v => v

/-- The inequality of two sequences is decided by the first items that differ. -/
def Value.orderedItems (op : Inequality) : List Value → List Value → Except Fault Bool
  | [], [] => .ok (op.holds .eq)
  | [], _ :: _ => .ok (op.holds .lt)
  | _ :: _, [] => .ok (op.holds .gt)
  | x :: xs, y :: ys => if x.eq y then Value.orderedItems op xs ys else x.ordered op y
termination_by structural xs => xs

end

/-- Whether the inequality holds; a collection is neither below nor above itself. -/
def Datum.ordered (op : Inequality) (a b : Datum) : Except Fault Bool :=
  match a.value with
  | .list _ | .tuple _ | .set _ => if a.same b then .ok (op.holds .eq) else a.value.ordered op b.value
  | _ => a.value.ordered op b.value

end Criteria
