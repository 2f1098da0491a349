import Criteria.Fault
import Criteria.Text.Case
import Criteria.Yaml.Tag

/-!
# Numbers in documents

What the scalars tagged as integers and fractions denote. Underscores count for nothing, the sign
stands in front, and the beginning decides on the notation; parts between colons are digits to base
sixty. A text that fits its notation only at first sight is a fault.
-/

namespace Criteria.Yaml

/-- The sign in front of a text that must not be empty: whether it is a minus, and the rest. -/
def splitSign (cs : List Char) : Except Fault (Bool × List Char) :=
  if cs.isEmpty then .error .emptyText else .ok (Text.readSign cs)

/-- The integer that an unsigned text denotes. -/
def natural (cs : List Char) : Except Fault Int :=
  match cs with
  | [] => .error .emptyText
  | ['0'] => .ok 0
  | '0' :: 'b' :: ds => Fault.readInteger 2 (String.ofList ds)
  | '0' :: 'x' :: ds => Fault.readInteger 16 (String.ofList ds)
  | '0' :: _ => Fault.readInteger 8 (String.ofList cs)
  | _ =>
    if cs.contains ':' then do
      let parts ← (Tag.splitColons cs).mapM fun part => Fault.readInteger 10 (String.ofList part)
      return parts.foldl (fun n part => 60 * n + part) 0
    else Fault.readInteger 10 (String.ofList cs)

/-- The integer that a text denotes. -/
def integer (text : String) : Except Fault Int := do
  let (negative, body) ← splitSign (text.toList.filter (· != '_'))
  let n ← natural body
  return if negative then -n else n

/-- The sum of parts to base sixty, the last part first; every step is rounded. -/
def sumSixtieths (base : Nat) (sum : Binary64) : List Binary64 → Except Fault Binary64
  | [] => .ok sum
  | part :: parts =>
    let weight := Binary64.ofInt base
    if weight = .infinity false then .error .integerTooLarge
    else sumSixtieths (60 * base) (sum.add (part.mul weight)) parts

/-- The double that an unsigned text denotes. -/
def magnitude (cs : List Char) : Except Fault Binary64 :=
  let text := String.ofList cs
  if text = ".inf" then .ok (.infinity false)
  else if text = ".nan" then .ok .nan
  else if cs.contains ':' then do
    let parts ← (Tag.splitColons cs).mapM fun part => Fault.readFloat (String.ofList part)
    sumSixtieths 1 (.zero false) parts.reverse
  else Fault.readFloat text

/-- The double that a text denotes. -/
def fraction (text : String) : Except Fault Binary64 := do
  let plain := Text.lowerCase (String.ofList (text.toList.filter (· != '_')))
  let (negative, body) ← splitSign plain.toList
  let x ← magnitude body
  return if negative then x.neg else x

end Criteria.Yaml
