import Criteria.Proofs.Sql.Pattern

/-!
# What clauses mean

A clause has a value on each row, which may be null.  As a condition it has a verdict: true, false, or
unknown where null is involved.

**The meaning of the query language.**
* `Truth` — the three truth values, with `Connective.combine` and `Truth.notIf`.
* `Relation.truth`, `matching`, `amongTruth` — comparisons, patterns and lists of values.
* `Clause.denote`, `Clause.verdict` — the value of a clause on a row, and its verdict.

**The operations that build clauses.**  Parentheses and marks never change a verdict.
* `verdict_protect`, `denote_protect_operand` — clauses in a context.
* **`verdict_connect`** — joining two clauses combines their verdicts, whatever is dropped or flattened.
* **`verdict_negate`** — the complement of a *reversible* clause has the opposite verdict.
-/

namespace Criteria.Sql

/-! ## Three truth values -/

/-- A truth value; `none` is unknown. -/
abbrev Truth := Option Bool

namespace Truth

/-- The truth of a value; null and what is no truth value are unknown. -/
def ofValue : Value → Truth
  | .bool b => some b
  | _ => none

def toValue : Truth → Value
  | some b => .bool b
  | none => .none

@[simp] lemma ofValue_toValue (t : Truth) : ofValue t.toValue = t := by
  cases t <;> rfl

/-- The complement, if it is asked for. -/
def notIf (negated : Bool) (t : Truth) : Truth := t.map (negated ^^ ·)

@[simp] lemma notIf_some (negated b : Bool) : notIf negated (some b) = some (negated ^^ b) := rfl

@[simp] lemma notIf_false (t : Truth) : notIf false t = t := by
  cases t <;> simp [notIf]

lemma notIf_not (negated : Bool) (t : Truth) : notIf (!negated) t = notIf true (notIf negated t) := by
  cases t <;> simp [notIf]

end Truth

namespace Connective

/-- The truth of two conditions joined.  One that decides does so even if the other is unknown. -/
def combine (k : Connective) (s t : Truth) : Truth :=
  if s = some !k.neutral ∨ t = some !k.neutral then some !k.neutral
  else if s = none ∨ t = none then none
  else some k.neutral

variable (k : Connective) (s t u : Truth)

@[simp] lemma combine_neutral_left : k.combine (some k.neutral) t = t := by
  cases k <;> rcases t with _ | _ | _ <;> rfl

@[simp] lemma combine_neutral_right : k.combine s (some k.neutral) = s := by
  cases k <;> rcases s with _ | _ | _ <;> rfl

lemma combine_absorb_left : k.combine (some !k.neutral) t = some !k.neutral := if_pos (.inl rfl)

lemma combine_comm : k.combine s t = k.combine t s := by
  cases k <;> rcases s with _ | _ | _ <;> rcases t with _ | _ | _ <;> rfl

lemma combine_assoc : k.combine (k.combine s t) u = k.combine s (k.combine t u) := by
  cases k <;> rcases s with _ | _ | _ <;> rcases t with _ | _ | _ <;> rcases u with _ | _ | _ <;> rfl

end Connective

/-! ## Comparisons -/

/-- The order of two values of one type that are not null. -/
def compareValues : Value → Value → Option Ordering
  | .int a, .int b => some (compare a b)
  | .str s, .str t => some (compareText s t)
  | .bool a, .bool b => some (compare a b)
  | _, _ => none

namespace Relation

/-- Whether the relation holds of operands in the given order. -/
def holdsOf : Relation → Ordering → Bool
  | eq, o | same, o => o == .eq
  | ne, o | notSame, o => o != .eq
  | lt, o => o == .lt
  | le, o => o != .gt
  | gt, o => o == .gt
  | ge, o => o != .lt

lemma holdsOf_opposite (r : Relation) (o : Ordering) : r.opposite.holdsOf o = !r.holdsOf o := by
  cases r <;> cases o <;> rfl

/-- Whether null is a value like any other to the relation. -/
def nullSafe : Relation → Bool
  | same | notSame => true
  | eq | ne | lt | le | gt | ge => false

/-- The truth of a comparison.  With null it is unknown, unless it is a test for sameness. -/
def truth (r : Relation) (v w : Value) : Truth :=
  if r.nullSafe && (v.isNone || w.isNone) then
    some (r.holdsOf (if v.isNone && w.isNone then .eq else .lt))
  else (compareValues v w).map r.holdsOf

lemma truth_opposite (r : Relation) (v w : Value) :
    r.opposite.truth v w = Truth.notIf true (r.truth v w) := by
  have hsafe : r.opposite.nullSafe = r.nullSafe := by cases r <;> rfl
  have hholds : r.opposite.holdsOf = fun o => true ^^ r.holdsOf o := by
    funext o
    rw [holdsOf_opposite, Bool.true_xor]
  unfold truth
  rw [hsafe, hholds]
  by_cases hnull : (r.nullSafe && (v.isNone || w.isNone)) = true
  · rw [if_pos hnull, if_pos hnull, Truth.notIf_some]
  · rw [if_neg hnull, if_neg hnull]
    cases compareValues v w <;> rfl

end Relation

/-- The truth of a pattern match. -/
def matching (escape : Char) (around : String → String) : Value → Value → Truth
  | .str text, .str pattern => some (like escape (around pattern) text)
  | _, _ => none

/-- Whether a value is among the items: whether it equals one of them. -/
def amongTruth (v : Value) (items : List Value) : Truth :=
  items.foldr (fun w t => Connective.or.combine (Relation.eq.truth v w) t) (some false)

/-! ## Clauses -/

namespace Clause

mutual

/-- The value of a clause on a row. -/
def denote (row : Column → Value) : Clause → Value
  | column c => row c
  | bind _ v => v
  | null => .none
  | truth b => .bool b
  | compare r l m => (r.truth (l.denote row) (m.denote row)).toValue
  | like n l m => (Truth.notIf n (matching '\\' id (l.denote row) (m.denote row))).toValue
  | contains n l m =>
    (Truth.notIf n
      (matching '/' (fun s => "%" ++ s ++ "%") (l.denote row) (m.denote row))).toValue
  | within n l _ items => (Truth.notIf n (amongTruth (l.denote row) items)).toValue
  | chain k cs => (chainTruth row k cs).toValue
  | not c => (Truth.notIf true (.ofValue (c.denote row))).toValue
  | asCondition n c => (Truth.notIf n (.ofValue (c.denote row))).toValue
  | caseOnly test yes => if Truth.ofValue (test.denote row) = some true then yes.denote row else .none
  | caseElse test yes no =>
    if Truth.ofValue (test.denote row) = some true then yes.denote row else no.denote row
  | group c => c.denote row

/-- The truth of a chain of conditions. -/
def chainTruth (row : Column → Value) (k : Connective) : List Clause → Truth
  | [] => some k.neutral
  | c :: cs => k.combine (.ofValue (c.denote row)) (chainTruth row k cs)

end

/-- The verdict of a condition on a row. -/
def verdict (row : Column → Value) (c : Clause) : Truth := .ofValue (c.denote row)

/-- Whether a query with the condition selects the row. -/
def selects (row : Column → Value) (c : Clause) : Bool := c.verdict row == some true

variable {row : Column → Value}

section Verdicts

variable (n : Bool) (k : Connective) (r : Relation) (c d : Clause) (cs : List Clause)

@[simp] lemma verdict_truth (b : Bool) : (truth b).verdict row = some b := rfl

@[simp] lemma verdict_compare :
    (compare r c d).verdict row = r.truth (c.denote row) (d.denote row) := Truth.ofValue_toValue _

@[simp] lemma verdict_like : (like n c d).verdict row =
    Truth.notIf n (matching '\\' id (c.denote row) (d.denote row)) := Truth.ofValue_toValue _

@[simp] lemma verdict_contains : (contains n c d).verdict row =
    Truth.notIf n (matching '/' (fun s => "%" ++ s ++ "%") (c.denote row) (d.denote row)) :=
  Truth.ofValue_toValue _

@[simp] lemma verdict_asCondition :
    (asCondition n c).verdict row = Truth.notIf n (c.verdict row) := Truth.ofValue_toValue _

@[simp] lemma verdict_not : (not c).verdict row = Truth.notIf true (c.verdict row) :=
  Truth.ofValue_toValue _

@[simp] lemma verdict_within (base : String) (items : List Value) :
    (within n c base items).verdict row = Truth.notIf n (amongTruth (c.denote row) items) :=
  Truth.ofValue_toValue _

@[simp] lemma verdict_chain : (chain k cs).verdict row = chainTruth row k cs :=
  Truth.ofValue_toValue _

end Verdicts

/-! ### Contexts -/

/-- A clause keeps its verdict wherever it stands. -/
lemma verdict_protect (ctx : Context) (c : Clause) : (c.protect ctx).verdict row = c.verdict row := by
  have hmark : (asCondition false c).verdict row = c.verdict row := by simp
  unfold protect
  split
  · rfl
  · rfl
  · split_ifs <;> rfl
  · split
    · split_ifs <;> rfl
    · split
      · split_ifs
        · exact hmark
        · rfl
      · split_ifs
        · exact hmark
        · rfl
      · rfl

/-- As an operand it also keeps its value. -/
lemma denote_protect_operand (c : Clause) : (c.protect .operand).denote row = c.denote row := by
  unfold protect
  split
  · rfl
  · rfl
  · split_ifs <;> rfl
  · split
    · split_ifs <;> rfl
    · rfl

/-! ### Joining -/

lemma chainTruth_append (k : Connective) (cs ds : List Clause) :
    chainTruth row k (cs ++ ds) = k.combine (chainTruth row k cs) (chainTruth row k ds) := by
  induction cs with
  | nil => rw [List.nil_append, chainTruth, Connective.combine_neutral_left]
  | cons c cs ih => rw [List.cons_append, chainTruth, chainTruth, ih, Connective.combine_assoc]

/-- What a clause contributes to a chain has the verdict of the clause. -/
lemma chainTruth_parts (k : Connective) (c : Clause) :
    chainTruth row k (c.parts k) = c.verdict row := by
  have hsingle : ∀ d : Clause, chainTruth row k [d] = d.verdict row :=
    fun d => Connective.combine_neutral_right k _
  unfold parts
  split
  · split_ifs with h
    · rw [verdict_chain, h]
    · exact hsingle _
  · exact hsingle _

/-- A constant joined with a condition is left out or stands alone. -/
lemma verdict_constant (k : Connective) (a : Bool) (c : Clause) :
    (if a = k.neutral then c.protect .condition else asCondition false (truth a)).verdict row =
      k.combine (some a) (c.verdict row) := by
  split_ifs with h
  · rw [verdict_protect, h, Connective.combine_neutral_left]
  · have habsorb : a = !k.neutral := Bool.eq_not_of_ne h
    rw [verdict_asCondition, verdict_truth, Truth.notIf_false, habsorb,
      Connective.combine_absorb_left]

/-- **Joining combines verdicts.** -/
theorem verdict_connect (k : Connective) (l r : Clause) :
    (connect k l r).verdict row = k.combine (l.verdict row) (r.verdict row) := by
  unfold connect
  split
  next a b =>
    rw [verdict_asCondition, verdict_truth, verdict_truth, verdict_truth, Truth.notIf_false]
    split_ifs with h
    · rw [h, Connective.combine_neutral_left]
    · rw [Bool.eq_not_of_ne h, Connective.combine_absorb_left]
  next a c _ => rw [verdict_constant, verdict_truth]
  next c a _ => rw [verdict_constant, verdict_truth, Connective.combine_comm]
  next =>
    rw [verdict_chain, chainTruth_append, chainTruth_parts, chainTruth_parts, verdict_protect,
      verdict_protect]

/-! ### Complements -/

/-- Whether `negate` turns the clause into its complement.  A test for sameness must test for a
constant, and a constant that stands as a condition must not be negated already. -/
def reversible : Clause → Bool
  | compare .same _ m | compare .notSame _ m => m.isLiteral
  | asCondition n (truth _) => !n
  | _ => true

/-- **The complement has the opposite verdict.** -/
theorem verdict_negate {c : Clause} (h : c.reversible = true) :
    c.negate.verdict row = Truth.notIf true (c.verdict row) := by
  unfold negate
  split
  next b => rw [verdict_truth, verdict_truth, Truth.notIf_some, Bool.true_xor]
  next r x y =>
    have hopposite : complementRelation r y = r.opposite := by
      cases r <;> first | rfl | exact if_pos h
    rw [hopposite, verdict_compare, verdict_compare, Relation.truth_opposite]
  next n x y => rw [verdict_like, verdict_like, Truth.notIf_not]
  next n x y => rw [verdict_contains, verdict_contains, Truth.notIf_not]
  next n x base items => rw [verdict_within, verdict_within, Truth.notIf_not]
  next n b =>
    have hn : n = false := by simpa [reversible] using h
    rw [hn, verdict_asCondition, Truth.notIf_false, verdict_truth, verdict_truth,
      Truth.notIf_some, Bool.true_xor]
  next n x _ => rw [verdict_asCondition, verdict_asCondition, Truth.notIf_not]
  next => rw [verdict_not, verdict_protect]
  next => rw [verdict_not, verdict_protect]
  all_goals
    split_ifs
    · rw [verdict_asCondition]
    · rw [verdict_not]

lemma reversible_mark (c : Clause) : (asCondition false c).reversible = true := by
  cases c <;> rfl

lemma reversible_protect {c : Clause} (h : c.reversible = true) (ctx : Context) :
    (c.protect ctx).reversible = true := by
  unfold protect
  split
  · exact h
  · rfl
  · split_ifs <;> rfl
  · split
    · split_ifs
      · rfl
      · exact h
    · split
      · split_ifs
        · exact reversible_mark c
        · exact h
      · split_ifs
        · exact reversible_mark c
        · exact h
      · exact h

lemma reversible_connect (k : Connective) {l r : Clause} (hl : l.reversible = true)
    (hr : r.reversible = true) : (connect k l r).reversible = true := by
  unfold connect
  split
  next => rfl
  next =>
    split_ifs
    · exact reversible_protect hr _
    · rfl
  next =>
    split_ifs
    · exact reversible_protect hl _
    · rfl
  next => rfl

lemma reversible_negate {c : Clause} (h : c.reversible = true) : c.negate.reversible = true := by
  unfold negate
  split
  next => rfl
  next r x y =>
    cases r with
    | same =>
        rw [show complementRelation .same y = .notSame from if_pos h]
        exact h
    | notSame =>
        rw [show complementRelation .notSame y = .same from if_pos h]
        exact h
    | _ => rfl
  next => rfl
  next => rfl
  next => rfl
  next => rfl
  next n x hx => cases x <;> first | rfl | exact absurd rfl (hx _)
  next => rfl
  next => rfl
  all_goals split_ifs <;> rfl

end Clause

end Criteria.Sql
