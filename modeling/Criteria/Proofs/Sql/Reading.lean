import Criteria.Proofs.Spec.Isolation
import Criteria.Proofs.Sql.Comparison
import Criteria.Spec.Field

/-!
# Reading filters with three truth values

A specification made of filters on columns has a truth on each row: that of its comparisons, which is
unknown where null is compared, joined by the connectives of three truth values.

**Readings.**
* `comparisonTruth` — the truth of a comparison of a column with a constant.
* `Expr.reading`, `Spec.reading` — the truth of a condition, and of a specification.
* `Expr.accepted`, `Spec.accepted` — whether a query takes the constants.
* `Expr.fits`, `Spec.fits` — whether they are of the columns' types, and null is only tested for.

**Filters.**
* `OverColumns` — the specifications made of filters on the columns of an entity class.
* **`toLambda_reading`** — the lambda of such a specification has the reading of the specification.
* **`reading_of_fits`** — where null is only tested for, and the constants are of the columns' types, the
  reading is known.
-/

namespace Criteria

open Sql (EntityClass Column Connective Truth)

/-! ## Readings -/

namespace Sql

/-- The truth of a comparison of a column's value with a constant.  To compare with null for equality is
to test for null. -/
def comparisonTruth (op : CompareOp) (v : Value) (d : Datum) : Truth :=
  match op with
  | .eq => (if d.value.isNone then Relation.same else .eq).truth v d.value
  | .ne => (if d.value.isNone then Relation.notSame else .ne).truth v d.value
  | .lt => Relation.lt.truth v d.value
  | .le => Relation.le.truth v d.value
  | .gt => Relation.gt.truth v d.value
  | .ge => Relation.ge.truth v d.value
  | .same => Relation.same.truth v d.value
  | .notSame => Relation.notSame.truth v d.value
  | .isIn =>
    match d.iterate with
    | .ok items => amongTruth v (items.map (·.value))
    | .error _ => none
  | .contains =>
    match v, d.value with
    | .str text, .str s => some (occursIn s.toList text.toList)
    | _, _ => none
  | .like => matching '\\' id v d.value

/-- Whether the value is passed beside a query.  Null, true and false are written in the query, where
they have no order and are no patterns. -/
def isPassed : Value → Bool
  | .none | .bool _ => false
  | _ => true

/-- Whether a query takes the constant in a comparison. -/
def acceptsConstant (op : CompareOp) (d : Datum) : Bool :=
  match op with
  | .eq | .ne | .same | .notSame => true
  | .lt | .le | .gt | .ge | .like => isPassed d.value
  | .isIn => d.iterate.isOk
  | .contains => d.value.text?.isSome

/-- The truth of a comparison of a member with a constant. -/
def comparisonReading (root : EntityClass) (row : Column → Value) (op : CompareOp) :
    Expr → Expr → Truth
  | .member _ name, .const d =>
    match root.attribute? name with
    | some (.column c) => comparisonTruth op (row c) d
    | _ => none
  | _, _ => none

/-- Whether the constant is fit for the column, and the column is not null on the row unless null is
what it is tested for. -/
def comparisonFits (root : EntityClass) (row : Column → Value) (op : CompareOp) : Expr → Expr → Bool
  | .member _ name, .const d =>
    match root.attribute? name with
    | some (.column c) =>
      c.type.admitsConstant op d && (c.type.admits (row c) || ((row c).isNone && d.value.isNone))
    | _ => false
  | _, _ => false

end Sql

open Sql (comparisonTruth comparisonReading comparisonFits acceptsConstant)

/-- The truth of a condition on a row. -/
def Expr.reading (root : EntityClass) (row : Column → Value) : Expr → Truth
  | const d => .ofValue d.value
  | compare op l r => comparisonReading root row op l r
  | and l r => Connective.and.combine (l.reading root row) (r.reading root row)
  | or l r => Connective.or.combine (l.reading root row) (r.reading root row)
  | not e => .notIf true (e.reading root row)
  | _ => none

/-- Whether a query takes the constants of a condition. -/
def Expr.accepted : Expr → Bool
  | compare op _ (const d) => acceptsConstant op d
  | and l r | or l r => l.accepted && r.accepted
  | not e => e.accepted
  | _ => true

/-- Whether all comparisons of a condition are fit for the row. -/
def Expr.fits (root : EntityClass) (row : Column → Value) : Expr → Bool
  | compare op l r => comparisonFits root row op l r
  | and l r | or l r => l.fits root row && r.fits root row
  | not e => e.fits root row
  | _ => true

namespace Combination

/-- Two truths combined. -/
def truth (s t : Truth) : Combination → Truth
  | and => Connective.and.combine s t
  | or => Connective.or.combine s t
  | nand => .notIf true (Connective.and.combine s t)
  | nor => .notIf true (Connective.or.combine s t)

/-- The laws of De Morgan. -/
lemma truth_of_negates {c : Combination} (h : c.negates = true) (s t : Truth) :
    c.truth s t = c.plain.truth (.notIf true s) (.notIf true t) := by
  cases c with
  | and | or => cases h
  | nand | nor => rcases s with _ | _ | _ <;> rcases t with _ | _ | _ <;> rfl

lemma truth_of_not_negates {c : Combination} (h : c.negates = false) (s t : Truth) :
    c.truth s t = c.plain.truth s t := by
  cases c with
  | and | or => rfl
  | nand | nor => cases h

lemma reading_connective (root : EntityClass) (row : Column → Value) (c : Combination) (a b : Expr) :
    (c.connective a b).reading root row =
      c.plain.truth (a.reading root row) (b.reading root row) := by
  cases c <;> rfl

lemma accepted_connective (c : Combination) (a b : Expr) :
    (c.connective a b).accepted = (a.accepted && b.accepted) := by
  cases c <;> rfl

lemma fits_connective (root : EntityClass) (row : Column → Value) (c : Combination) (a b : Expr) :
    (c.connective a b).fits root row = (a.fits root row && b.fits root row) := by
  cases c <;> rfl

end Combination

namespace Spec

/-- The truth of a specification on a row. -/
def reading (root : EntityClass) (row : Column → Value) : Spec → Truth
  | everything => some true
  | tree l => l.body.reading root row
  | combine c l r => c.truth (l.reading root row) (r.reading root row)
  | negated s => .notIf true (s.reading root row)
  | predicate .. | template .. => none

/-- Whether a query takes the constants of a specification. -/
def accepted : Spec → Bool
  | tree l => l.body.accepted
  | combine _ l r => l.accepted && r.accepted
  | negated s => s.accepted
  | everything | predicate .. | template .. => true

/-- Whether all comparisons of a specification are fit for the row. -/
def fits (root : EntityClass) (row : Column → Value) : Spec → Bool
  | tree l => l.body.fits root row
  | combine _ l r => l.fits root row && r.fits root row
  | negated s => s.fits root row
  | everything | predicate .. | template .. => true

end Spec

namespace Sql

/-! ## Filters -/

/-- The field is a column of the entity class; its name is no path. -/
structure IsColumn (root : EntityClass) (name : String) (c : Column) : Prop where
  plain : Text.dotted name = [name]
  column : root.attribute? name = some (.column c)

/-- The filters on a column: a comparison with a constant, a test for null, membership in a collection
that is read when the filter is made, and a range. -/
inductive ColumnFilter (root : EntityClass) : Spec → Prop where
  | compareField {name : String} {c : Column} {op : CompareOp} {d : Datum} {n n' : Nat} {s : Spec} :
      IsColumn root name c → op ∉ [.same, .notSame, .isIn] →
      (Spec.compareField op (.str name) d).run n = .ok (s, n') → ColumnFilter root s
  | nullField {name : String} {c : Column} {op : CompareOp} {n n' : Nat} {s : Spec} :
      IsColumn root name c → (Spec.nullField op (.str name)).run n = .ok (s, n') →
      ColumnFilter root s
  | oneOf {name : String} {c : Column} {d : Datum} {n n' : Nat} {s : Spec} :
      IsColumn root name c → (Spec.oneOf (.str name) d).run n = .ok (s, n') → ColumnFilter root s
  | between {name : String} {c : Column} {low high : Datum} {n n' : Nat} {s : Spec} :
      IsColumn root name c → (Spec.between (.str name) low high).run n = .ok (s, n') →
      ColumnFilter root s

/-- The specifications made of filters on the columns of an entity class, which hold integers, texts or
truth values: there are no other columns (`ColumnType`). -/
inductive OverColumns (root : EntityClass) : Spec → Prop where
  | everything : OverColumns root .everything
  | filter {s : Spec} : ColumnFilter root s → OverColumns root s
  | combine (c : Combination) {l r : Spec} :
      OverColumns root l → OverColumns root r → OverColumns root (.combine c l r)
  | negated {s : Spec} : OverColumns root s → OverColumns root (.negated s)

/-- Only null is tested for sameness, and nothing is looked for in a bare text. -/
structure Testable (op : CompareOp) (d : Datum) : Prop where
  null : op = .same ∨ op = .notSame → d.value = .none
  collection : op = .isIn → d.value.text? = none

/-- The conditions of such specifications, over the parameter `p`. -/
inductive FilterBody (root : EntityClass) (p : Param) : Expr → Prop where
  | truth (b : Bool) (o : Origin) : FilterBody root p (.const ⟨.bool b, o⟩)
  | compare {op : CompareOp} {name : String} {c : Column} {d : Datum} :
      root.attribute? name = some (.column c) → Testable op d →
      FilterBody root p (.compare op (.member (.param p) name) (.const d))
  | and {l r : Expr} : FilterBody root p l → FilterBody root p r → FilterBody root p (.and l r)
  | or {l r : Expr} : FilterBody root p l → FilterBody root p r → FilterBody root p (.or l r)
  | not {e : Expr} : FilterBody root p e → FilterBody root p (.not e)

namespace FilterBody

variable {root : EntityClass} {p t : Param} {a b : Expr}

lemma connective (c : Combination) (ha : FilterBody root p a) (hb : FilterBody root p b) :
    FilterBody root p (c.connective a b) := by
  cases c with
  | and | nor => exact .and ha hb
  | or | nand => exact .or ha hb

lemma isProper (h : FilterBody root p a) : a.isProper = true := by
  induction h with
  | truth | compare => rfl
  | and _ _ ihl ihr | or _ _ ihl ihr => rw [Expr.isProper, ihl, ihr]; rfl
  | not _ ih => exact ih

lemma check (h : FilterBody root p a) : Expr.check [p] a = .ok () := by
  have hparam : Expr.check [p] (.param p) = .ok () := by simp [Expr.check]
  induction h with
  | truth => rfl
  | compare => exact Expr.check_pair.mpr ⟨hparam, rfl⟩
  | and _ _ ihl ihr | or _ _ ihl ihr => exact Expr.check_pair.mpr ⟨ihl, ihr⟩
  | not _ ih => exact ih

/-- Over another parameter the condition is of the same form. -/
lemma rebound (t : Param) (h : FilterBody root p a) : FilterBody root t (Expr.rebound p t a) := by
  have hparam : Expr.replacement (.param p) t p = .param t := by
    rw [Expr.replacement_eq_redirect, Expr.redirect_source]
  induction h with
  | truth b o => exact .truth b o
  | @compare op name c d hname hnull =>
      rw [Expr.rebound, Expr.mapParams, Expr.mapParams, Expr.mapParams, Expr.mapParams, hparam]
      exact .compare hname hnull
  | and _ _ ihl ihr => exact .and ihl ihr
  | or _ _ ihl ihr => exact .or ihl ihr
  | not _ ih => exact .not ih

/-- A reading does not look at the parameter. -/
lemma reading_rebound (t : Param) (row : Column → Value) (h : FilterBody root p a) :
    (Expr.rebound p t a).reading root row = a.reading root row := by
  induction h with
  | truth | compare => rfl
  | and _ _ ihl ihr => exact congrArg₂ Connective.and.combine ihl ihr
  | or _ _ ihl ihr => exact congrArg₂ Connective.or.combine ihl ihr
  | not _ ih => exact congrArg (Truth.notIf true) ih

lemma accepted_rebound (t : Param) (h : FilterBody root p a) :
    (Expr.rebound p t a).accepted = a.accepted := by
  induction h with
  | truth | compare => rfl
  | and _ _ ihl ihr | or _ _ ihl ihr => exact congrArg₂ (· && ·) ihl ihr
  | not _ ih => exact ih

lemma fits_rebound (t : Param) (row : Column → Value) (h : FilterBody root p a) :
    (Expr.rebound p t a).fits root row = a.fits root row := by
  induction h with
  | truth | compare => rfl
  | and _ _ ihl ihr | or _ _ ihl ihr => exact congrArg₂ (· && ·) ihl ihr
  | not _ ih => exact ih

end FilterBody

/-- A condition that a specification stands for. -/
structure StandsOver (root : EntityClass) (s : Spec) (p : Param) (body : Expr) : Prop where
  form : FilterBody root p body
  reading : ∀ row, body.reading root row = s.reading root row
  accepted : body.accepted = s.accepted
  fits : ∀ row, body.fits root row = s.fits root row

namespace StandsOver

variable {root : EntityClass} {s l r : Spec} {p : Param} {body a b : Expr}

/-- The parameter may be another one. -/
lemma rebound (t : Param) (h : StandsOver root s p body) :
    StandsOver root s t (Expr.rebound p t body) where
  form := h.form.rebound t
  reading row := (h.form.reading_rebound t row).trans (h.reading row)
  accepted := (h.form.accepted_rebound t).trans h.accepted
  fits row := (h.form.fits_rebound t row).trans (h.fits row)

lemma negated (h : StandsOver root s p body) : StandsOver root (.negated s) p (.not body) where
  form := .not h.form
  reading row := congrArg (Truth.notIf true) (h.reading row)
  accepted := h.accepted
  fits := h.fits

lemma connective (c : Combination) (hl : StandsOver root l p a) (hr : StandsOver root r p b) :
    StandsOver root (.combine c.plain l r) p (c.connective a b) where
  form := .connective c hl.form hr.form
  reading row := by rw [Combination.reading_connective, hl.reading, hr.reading, Spec.reading]
  accepted := by rw [Combination.accepted_connective, hl.accepted, hr.accepted, Spec.accepted]
  fits row := by rw [Combination.fits_connective, hl.fits, hr.fits, Spec.fits]

end StandsOver

/-! ## Lambdas -/

section Lambdas

variable {root : EntityClass} {name : String} {c : Column} {n n' : Nat} {s : Spec}

/-- A leaf on a column is about a member of its own parameter. -/
lemma eq_of_onField (hname : IsColumn root name c) {build : Expr → Expr}
    (h : (Spec.onField (.str name) build).run n = .ok (s, n')) :
    s = .tree ⟨.param ⟨n, Param.defaultName⟩,
      build (.member (.param ⟨n, Param.defaultName⟩) name)⟩ := by
  have named : name ≠ "" := by
    rintro rfl
    cases h
  rw [Spec.onField_run named, Expr.path, hname.plain] at h
  cases h
  rfl

/-- A filter is a leaf over a condition on columns. -/
lemma ColumnFilter.eq_tree (h : ColumnFilter root s) :
    ∃ p body, s = .tree ⟨.param p, body⟩ ∧ FilterBody root p body := by
  have plain : ∀ {op : CompareOp} {d : Datum}, op ∉ [.same, .notSame, .isIn] → Testable op d := by
    intro op d hop
    simp only [List.mem_cons, List.not_mem_nil, or_false, not_or] at hop
    exact ⟨fun h => absurd h (not_or.mpr ⟨hop.1, hop.2.1⟩), fun h => absurd h hop.2.2⟩
  cases h with
  | compareField hname hop hrun =>
      exact ⟨_, _, eq_of_onField hname hrun, .compare hname.column (plain hop)⟩
  | nullField hname hrun =>
      rw [Spec.nullField, Spec.compareField] at hrun
      exact ⟨_, _, eq_of_onField hname hrun, .compare hname.column ⟨fun _ => rfl, fun _ => rfl⟩⟩
  | @oneOf _ _ d _ _ _ hname hrun =>
      rw [Spec.oneOf] at hrun
      cases hitems : d.iterate with
      | error f =>
          rw [hitems] at hrun
          cases hrun
      | ok items =>
          rw [hitems] at hrun
          refine ⟨_, _, eq_of_onField hname hrun, .compare hname.column ⟨fun hnull => ?_, fun _ => ?_⟩⟩
          · obtain h | h := hnull <;> cases h
          · obtain ⟨w, o⟩ := d
            cases w <;> rfl
  | between hname hrun =>
      exact ⟨_, _, eq_of_onField hname hrun,
        .and (.compare hname.column (plain (by decide))) (.compare hname.column (plain (by decide)))⟩

/-- The leaves are closed. -/
lemma OverColumns.closed (form : OverColumns root s) : ∀ l ∈ s.lambdas, l.Closed := by
  induction form with
  | everything => exact List.forall_mem_singleton.mpr ⟨rfl, rfl⟩
  | filter h =>
      obtain ⟨p, body, rfl, hbody⟩ := h.eq_tree
      exact List.forall_mem_singleton.mpr (Lambda.closed_of_check hbody.isProper hbody.check)
  | combine c _ _ ihl ihr => exact List.forall_mem_append.mpr ⟨ihl, ihr⟩
  | negated _ ih => exact ih

/-- Joining two conditions that specifications stand for. -/
lemma StandsOver.combine (c : Combination) {l r : Spec} {p q : Param} {a b : Expr}
    (hl : StandsOver root l p a) (hr : StandsOver root r q b) :
    ∃ body, StandsOver root (.combine c l r) p body ∧
      Lambda.merge c.connective (Lambda.operand c ⟨.param p, a⟩) (Lambda.operand c ⟨.param q, b⟩) =
        .ok ⟨.param p, body⟩ := by
  have hb := hr.rebound p
  cases hneg : c.negates with
  | true =>
      have h := hl.negated.connective c hb.negated
      refine ⟨_, ⟨h.form, fun row => ?_, h.accepted, h.fits⟩, ?_⟩
      · exact (h.reading row).trans (Combination.truth_of_negates hneg _ _).symm
      · rw [Lambda.operand_of_negates hneg, Lambda.operand_of_negates hneg]
        exact Lambda.merge_eq_connective c (.not a) (b := .not b) hr.form.isProper
  | false =>
      have h := hl.connective c hb
      refine ⟨_, ⟨h.form, fun row => ?_, h.accepted, h.fits⟩, ?_⟩
      · exact (h.reading row).trans (Combination.truth_of_not_negates hneg _ _).symm
      · rw [Lambda.operand_of_not_negates hneg, Lambda.operand_of_not_negates hneg]
        exact Lambda.merge_eq_connective c a hr.form.isProper

/-- **The lambda of a specification has the reading of the specification.** -/
theorem toLambda_reading (form : OverColumns root s) (n : Nat) :
    ∃ p body, s.toLambda.run n = .ok (⟨.param p, body⟩, n) ∧ StandsOver root s p body := by
  induction form generalizing n with
  | everything => exact ⟨_, _, rfl, .truth true _, fun _ => rfl, rfl, fun _ => rfl⟩
  | filter h =>
      obtain ⟨p, body, rfl, hbody⟩ := h.eq_tree
      exact ⟨p, body, rfl, hbody, fun _ => rfl, rfl, fun _ => rfl⟩
  | @combine c l r _ _ ihl ihr =>
      obtain ⟨p, a, hl, ha⟩ := ihl n
      obtain ⟨q, b, hr, hb⟩ := ihr n
      obtain ⟨body, hbody, hmerge⟩ := ha.combine c hb
      exact ⟨p, body, Spec.toLambda_combine hl hr hmerge, hbody⟩
  | negated _ ih =>
      obtain ⟨p, body, hrun, hbody⟩ := ih n
      exact ⟨p, .not body, Spec.toLambda_negated hrun, hbody.negated⟩

end Lambdas

/-! ## Known readings -/

lemma isSome_notIf (negated : Bool) (t : Truth) : (Truth.notIf negated t).isSome = t.isSome :=
  Option.isSome_map

lemma isSome_combine (k : Connective) {s t : Truth} (hs : s.isSome = true) (ht : t.isSome = true) :
    (k.combine s t).isSome = true := by
  obtain ⟨a, rfl⟩ := Option.isSome_iff_exists.mp hs
  obtain ⟨b, rfl⟩ := Option.isSome_iff_exists.mp ht
  cases k <;> cases a <;> cases b <;> rfl

section Known

variable {t : ColumnType} {v w : Value} {d : Datum} {op : CompareOp}

lemma isSome_relation (r : Relation) (hv : t.admits v = true) (hw : t.admits w = true) :
    (r.truth v w).isSome = true := by
  obtain ⟨o, horder, -⟩ := order_admitted hv hw
  rw [truth_of_not_null r (isNone_of_admits hv) (isNone_of_admits hw), horder]
  rfl

/-- A test for null is never unknown. -/
lemma isSome_nullTest {r : Relation} (hr : r.nullSafe = true) (hw : w.isNone = true) :
    (r.truth v w).isSome = true := by
  rw [Relation.truth, hr, hw, Bool.or_true, Bool.and_self, if_pos rfl]
  rfl

/-- A membership in a collection of values of the column's type. -/
lemma isSome_isIn (hd : t.admitsConstant .isIn d = true)
    (hv : d.value.isNone = false → t.admits v = true) : (comparisonTruth .isIn v d).isSome = true := by
  rw [ColumnType.admitsConstant] at hd
  rw [comparisonTruth]
  cases hitems : d.iterate with
  | error f =>
      rw [hitems] at hd
      cases hd
  | ok items =>
      rw [hitems, List.all_eq_true] at hd
      have hnone : d.value.isNone = false := by
        obtain ⟨w, origin⟩ := d
        cases w <;> first | rfl | cases hitems
      have hall : ∀ w ∈ items.map (·.value), t.admits w = true := by
        intro w hw
        obtain ⟨i, hi, rfl⟩ := List.mem_map.mp hw
        exact hd i hi
      show (amongTruth v (items.map (·.value))).isSome = true
      rw [amongTruth_admitted (hv hnone) hall]
      rfl

/-- **A fitting comparison is not unknown.** -/
theorem isSome_comparisonTruth (hd : t.admitsConstant op d = true)
    (hv : (t.admits v || (v.isNone && d.value.isNone)) = true) :
    (comparisonTruth op v d).isSome = true := by
  have value : d.value.isNone = false → t.admits v = true := by
    intro hnone
    rwa [hnone, Bool.and_false, Bool.or_false] at hv
  have ordered : ∀ r : Relation, t.admits d.value = true → (r.truth v d.value).isSome = true :=
    fun r hadmits => isSome_relation r (value (isNone_of_admits hadmits)) hadmits
  have equality : ∀ r s : Relation, s.nullSafe = true →
      (t.admits d.value || d.value.isNone) = true →
      ((if d.value.isNone then s else r).truth v d.value).isSome = true := by
    intro r s hs hconstant
    split_ifs with hnone
    · exact isSome_nullTest hs hnone
    · rw [Bool.not_eq_true] at hnone
      rw [hnone, Bool.or_false] at hconstant
      exact ordered r hconstant
  have texts : t = .text → t.admits d.value = true →
      ∃ text s, v = .str text ∧ d.value = .str s := by
    rintro rfl hadmits
    obtain ⟨text, htext⟩ := text_of_admits (value (isNone_of_admits hadmits))
    obtain ⟨s, hs⟩ := text_of_admits hadmits
    exact ⟨text, s, htext, hs⟩
  cases op with
  | eq => exact equality .eq .same rfl hd
  | ne => exact equality .ne .notSame rfl hd
  | lt => exact ordered .lt hd
  | le => exact ordered .le hd
  | gt => exact ordered .gt hd
  | ge => exact ordered .ge hd
  | same => exact isSome_nullTest rfl hd
  | notSame => exact isSome_nullTest rfl hd
  | isIn => exact isSome_isIn hd value
  | contains =>
      rw [ColumnType.admitsConstant, Bool.and_eq_true, beq_iff_eq] at hd
      obtain ⟨text, s, rfl, hs⟩ := texts hd.1 hd.2
      simp only [comparisonTruth, hs, Option.isSome_some]
  | like =>
      rw [ColumnType.admitsConstant, Bool.and_eq_true, Bool.and_eq_true, beq_iff_eq] at hd
      obtain ⟨text, s, rfl, hs⟩ := texts hd.1.1 hd.1.2
      rw [comparisonTruth, hs]
      rfl

end Known

variable {root : EntityClass} {row : Column → Value}

lemma FilterBody.isSome_reading {p : Param} {body : Expr} (form : FilterBody root p body)
    (h : body.fits root row = true) : (body.reading root row).isSome = true := by
  induction form with
  | truth => rfl
  | @compare op name c d hname =>
      rw [Expr.fits, comparisonFits, hname, Bool.and_eq_true] at h
      rw [Expr.reading, comparisonReading, hname]
      exact isSome_comparisonTruth h.1 h.2
  | and _ _ ihl ihr =>
      rw [Expr.fits, Bool.and_eq_true] at h
      exact isSome_combine .and (ihl h.1) (ihr h.2)
  | or _ _ ihl ihr =>
      rw [Expr.fits, Bool.and_eq_true] at h
      exact isSome_combine .or (ihl h.1) (ihr h.2)
  | not _ ih => exact (isSome_notIf true _).trans (ih h)

/-- **Fitting specifications have a known reading.** -/
theorem reading_of_fits {s : Spec} (form : OverColumns root s) (h : s.fits root row = true) :
    (s.reading root row).isSome = true := by
  obtain ⟨p, body, -, hbody⟩ := toLambda_reading form 0
  rw [← hbody.reading]
  exact hbody.form.isSome_reading ((hbody.fits row).trans h)

end Sql

end Criteria
