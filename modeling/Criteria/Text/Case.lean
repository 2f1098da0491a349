import Criteria.Text.CasedTable
import Criteria.Text.CaseTable

/-!
# Letter case

`upperCase` and `lowerCase` map every letter of a text by the tables of `Text.CaseTable`, so a
letter may become several (`ß` in upper case is `SS`). One letter depends on its neighbours: a
capital sigma that ends a word becomes `ς` and any other `σ`.
-/

namespace Criteria.Text

/-- The image of a code point under a list of runs. -/
def CaseRun.apply? (runs : Array CaseRun) (c : Nat) : Option Nat :=
  (runs.find? fun r => r.first ≤ c && c ≤ r.last && (c - r.first) % r.step == 0).map
    fun r => ((c : Int) + r.shift).toNat

/-- The image of one letter: an expansion if there is one, else the run it lies in, else itself. -/
def mapCase (expansions : Array (Nat × List Nat)) (runs : Array CaseRun) (c : Char) : List Char :=
  match expansions.find? (·.1 == c.toNat) with
  | some (_, image) => image.map Char.ofNat
  | none =>
    match CaseRun.apply? runs c.toNat with
    | some image => [Char.ofNat image]
    | none => [c]

def upperCase (s : String) : String :=
  String.ofList (s.toList.flatMap (mapCase upperExpansions upperRuns))

/-- Whether a code point lies in one of the ranges. -/
def inRanges (ranges : Array (Nat × Nat)) (c : Char) : Bool :=
  ranges.any fun r => r.1 ≤ c.toNat && c.toNat ≤ r.2

/-- Whether the first letter that is not passed over has case. -/
def meetsCased (cs : List Char) : Bool :=
  (cs.dropWhile (inRanges passedOver)).head?.any (inRanges cased)

/-- Lower case of a text from here on, `before` being what stands before it, nearest first. -/
def lowerFrom (before : List Char) : List Char → List Char
  | [] => []
  | c :: cs =>
    (if c == 'Σ' then [if meetsCased before && !meetsCased cs then 'ς' else 'σ']
      else mapCase lowerExpansions lowerRuns c) ++ lowerFrom (c :: before) cs

def lowerCase (s : String) : String := String.ofList (lowerFrom [] s.toList)

end Criteria.Text
