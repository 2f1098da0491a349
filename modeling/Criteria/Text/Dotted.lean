/-!
# Dotted names

A dotted name lists parts between dots; parts may be empty, and every text has at least one part.

* `dotted` is the list of parts; `intercalate_dotted` says that joining them gives the name back.
* `outerNames` are the names that a dotted name lies under: what stands before each of its dots,
  the longest first.
-/

namespace Criteria.Text

/-- The runs between dots. -/
def splitDots : List Char → List (List Char)
  | [] => [[]]
  | c :: cs =>
    match splitDots cs with
    | [] => [[c]]
    | part :: parts => if c = '.' then [] :: part :: parts else (c :: part) :: parts

/-- The parts of a dotted name. -/
def dotted (name : String) : List String := (splitDots name.toList).map String.ofList

theorem splitDots_ne_nil (cs : List Char) : splitDots cs ≠ [] := by
  cases cs with
  | nil => simp [splitDots]
  | cons c cs =>
    simp only [splitDots]
    split
    · simp
    · split <;> simp

theorem intercalate_splitDots (cs : List Char) :
    ['.'].intercalate (splitDots cs) = cs := by
  induction cs with
  | nil => simp [splitDots, List.intercalate]
  | cons c cs ih =>
    have nonempty := splitDots_ne_nil cs
    cases h : splitDots cs with
    | nil => exact absurd h nonempty
    | cons part parts =>
      rw [h] at ih
      simp only [splitDots, h]
      by_cases hc : c = '.'
      · subst hc
        rw [if_pos rfl]
        simpa [List.intercalate, List.intersperse] using ih
      · rw [if_neg hc]
        cases parts with
        | nil => simpa [List.intercalate, List.intersperse] using ih
        | cons next rest => simpa [List.intercalate, List.intersperse] using ih

/-- Joining the parts gives the name back. -/
theorem intercalate_dotted (name : String) : ".".intercalate (dotted name) = name := by
  rw [← String.toList_inj, String.toList_intercalate, dotted, List.map_map]
  have hparts : (splitDots name.toList).map (String.toList ∘ String.ofList) =
      splitDots name.toList := List.map_id'' (fun cs => String.toList_ofList) _
  rw [hparts]
  exact intercalate_splitDots name.toList

/-- What stands before each dot, the longest first; nothing stands before a dot at the start. -/
def outerChars (before : List Char) : List Char → List (List Char)
  | [] => []
  | c :: cs =>
    let longer := outerChars (before ++ [c]) cs
    if c = '.' && !before.isEmpty then longer ++ [before] else longer

/-- The names under which a dotted name lies, the nearest first. -/
def outerNames (name : String) : List String := (outerChars [] name.toList).map String.ofList

end Criteria.Text
