import Criteria.Proofs.Sql.Agreement
import Criteria.Proofs.Sql.Reading

/-!
# Queries of filters

A query for a condition made of filters selects by the reading of the condition, and there is a query
exactly if the constants are accepted.

* `Clause.Reads` — the invariant.  The clause has a given truth on every row and can be negated.
* **`compareOperands_accepted`**, `compareOperands_rejected` — the clause for a comparison.
* **`ofLambda_reads`**, `ofLambda_rejected` — by induction on the condition, its clause.
-/

namespace Criteria.Sql

/-! ## Comparisons -/

section Comparisons

variable {c : Column} {op : CompareOp} {d : Datum}

/-- The clause can be negated, and has the given truth on every row. -/
structure Clause.Reads (x : Clause) (truth : (Column → Value) → Truth) : Prop where
  reversible : x.reversible = true
  verdict : ∀ row, x.verdict row = truth row

lemma reads_comparison {r : Relation} (hr : r.nullSafe = false) (c : Column) {m : Clause} {w : Value}
    (hm : ∀ row, m.denote row = w) :
    (Clause.comparison r (.column c) m).Reads fun row => r.truth (row c) w where
  reversible := reversible_comparison hr _ m
  verdict row := by
    rw [verdict_comparison, hm]
    rfl

/-- A test for null can be negated too. -/
lemma reads_nullTest (r : Relation) (c : Column) :
    (Clause.comparison r (.column c) .null).Reads fun row => r.truth (row c) .none where
  reversible := by cases r <;> rfl
  verdict row := verdict_comparison r (.column c) .null

/-- Equality with null is a test for null, and equality with anything else a comparison. -/
lemma compareClause_equality (c : Column) (d : Datum) {r s : Relation}
    (h : r = .eq ∧ s = .same ∨ r = .ne ∧ s = .notSame) :
    ∃ x, compareClause r (.column c) (.value d) = .ok x ∧
      x.Reads fun row => (if d.value.isNone then s else r).truth (row c) d.value := by
  obtain ⟨w, o⟩ := d
  have hr : r.nullSafe = false := by obtain ⟨rfl, -⟩ | ⟨rfl, -⟩ := h <;> rfl
  cases w with
  | none =>
      obtain ⟨rfl, rfl⟩ | ⟨rfl, rfl⟩ := h
      · exact ⟨_, rfl, reads_nullTest .same c⟩
      · exact ⟨_, rfl, reads_nullTest .notSame c⟩
  | bool b =>
      obtain ⟨rfl, rfl⟩ | ⟨rfl, rfl⟩ := h
      · exact ⟨_, rfl, reads_comparison hr c fun row => rfl⟩
      · exact ⟨_, rfl, reads_comparison hr c fun row => rfl⟩
  | _ => exact ⟨_, rfl, reads_comparison hr c fun row => rfl⟩

/-- Constants that are passed beside the query have an order. -/
lemma compareClause_passed (c : Column) {d : Datum} (hd : isPassed d.value = true) {r : Relation}
    (hr : r.nullSafe = false) :
    ∃ x, compareClause r (.column c) (.value d) = .ok x ∧
      x.Reads fun row => r.truth (row c) d.value := by
  obtain ⟨w, o⟩ := d
  cases w with
  | none | bool b => cases hd
  | _ => exact ⟨_, rfl, reads_comparison hr c fun row => rfl⟩

lemma compareClause_not_passed (c : Column) {d : Datum} (hd : isPassed d.value = false) {r : Relation}
    (hr : r = .lt ∨ r = .le ∨ r = .gt ∨ r = .ge) :
    compareClause r (.column c) (.value d) = .error .noConstantOrder := by
  obtain ⟨w, o⟩ := d
  cases w with
  | none | bool b => obtain rfl | rfl | rfl | rfl := hr <;> rfl
  | _ => cases hd

lemma compareOperands_of_relation {r : Relation} (hr : relation? op = some r) (l : Clause) :
    compareOperands op (.clause l) (.value d) =
      (do return .clause (← compareClause r l (.value d))) := by
  unfold compareOperands
  rw [hr]

/-- **The clause for a comparison has the truth of the comparison.** -/
theorem compareOperands_accepted (c : Column) (hnull : op = .same ∨ op = .notSame → d.value = .none)
    (h : acceptsConstant op d = true) :
    ∃ x, compareOperands op (.clause (.column c)) (.value d) = .ok (.clause x) ∧
      x.Reads fun row => comparisonTruth op (row c) d := by
  have related : ∀ {r : Relation} {truth : (Column → Value) → Truth}, relation? op = some r →
      (∃ x, compareClause r (.column c) (.value d) = .ok x ∧ x.Reads truth) →
      ∃ x, compareOperands op (.clause (.column c)) (.value d) = .ok (.clause x) ∧ x.Reads truth := by
    rintro r truth hr ⟨x, hx, hreads⟩
    refine ⟨x, ?_, hreads⟩
    rw [compareOperands_of_relation hr, hx]
    rfl
  have hvalue : d = ⟨d.value, d.origin⟩ := rfl
  cases op with
  | eq => exact related rfl (compareClause_equality c d (.inl ⟨rfl, rfl⟩))
  | ne => exact related rfl (compareClause_equality c d (.inr ⟨rfl, rfl⟩))
  | lt | le | gt | ge => exact related rfl (compareClause_passed c h rfl)
  | same =>
      rw [hvalue, hnull (.inl rfl)]
      exact ⟨_, rfl, reads_nullTest .same c⟩
  | notSame =>
      rw [hvalue, hnull (.inr rfl)]
      exact ⟨_, rfl, reads_nullTest .notSame c⟩
  | isIn =>
      obtain ⟨items, hitems⟩ : ∃ items, d.iterate = .ok items := by
        rw [acceptsConstant] at h
        cases hitems : d.iterate with
        | error f =>
            rw [hitems] at h
            cases h
        | ok items => exact ⟨items, rfl⟩
      refine ⟨_, bind_eq_ok.mpr ⟨items, hitems, rfl⟩, rfl, fun row => ?_⟩
      simp only [comparisonTruth, hitems, Clause.verdict_within, Truth.notIf_false]
      rfl
  | contains =>
      obtain ⟨w, o⟩ := d
      cases w with
      | str s =>
          refine ⟨_, rfl, rfl, fun row => ?_⟩
          rw [Clause.verdict_contains, Truth.notIf_false]
          show matching '/' _ (row c) (.str (escapeWildcards s)) = _
          cases hrow : row c with
          | str text => rw [matching, like_search]; rfl
          | _ => rfl
      | _ => cases h
  | like =>
      obtain ⟨w, o⟩ := d
      cases w with
      | none | bool b => cases h
      | _ =>
          refine ⟨_, rfl, rfl, fun row => ?_⟩
          rw [Clause.verdict_like, Truth.notIf_false]
          rfl

/-- No query takes the other constants. -/
lemma compareOperands_rejected (c : Column) (h : acceptsConstant op d = false) :
    ∃ f, compareOperands op (.clause (.column c)) (.value d) = .error f := by
  have related : ∀ {r : Relation}, relation? op = some r → isPassed d.value = false →
      (r = .lt ∨ r = .le ∨ r = .gt ∨ r = .ge) →
      ∃ f, compareOperands op (.clause (.column c)) (.value d) = .error f := by
    intro r hr hd horder
    rw [compareOperands_of_relation hr, compareClause_not_passed c hd horder]
    exact ⟨_, rfl⟩
  cases op with
  | eq | ne | same | notSame => cases h
  | lt | le | gt | ge => exact related rfl h (by simp)
  | isIn =>
      rw [acceptsConstant] at h
      cases hitems : d.iterate with
      | error f =>
          refine ⟨f, ?_⟩
          show (d.iterate >>= _) = _
          rw [hitems]
          rfl
      | ok items =>
          rw [hitems] at h
          cases h
  | contains =>
      obtain ⟨w, o⟩ := d
      cases w with
      | str s => cases h
      | _ => exact ⟨_, rfl⟩
  | like =>
      obtain ⟨w, o⟩ := d
      cases w with
      | none | bool b => exact ⟨_, rfl⟩
      | _ => cases h

end Comparisons

/-! ## Conditions -/

section Conditions

variable {root : EntityClass} {p : Param} {body l r : Expr}

lemma ofLambda_and (binder : Expr) : Clause.ofLambda root ⟨binder, .and l r⟩ = (do
    return .connect .and (← Clause.ofLambda root ⟨binder, l⟩) (← Clause.ofLambda root ⟨binder, r⟩)) := by
  simp only [Clause.ofLambda, operandOf, bind_assoc, pure_bind]
  rfl

lemma ofLambda_or (binder : Expr) : Clause.ofLambda root ⟨binder, .or l r⟩ = (do
    return .connect .or (← Clause.ofLambda root ⟨binder, l⟩) (← Clause.ofLambda root ⟨binder, r⟩)) := by
  simp only [Clause.ofLambda, operandOf, bind_assoc, pure_bind]
  rfl

/-- The query for a complement is the complement of the query. -/
lemma ofLambda_not (binder : Expr) : Clause.ofLambda root ⟨binder, .not l⟩ = (do
    return (← Clause.ofLambda root ⟨binder, l⟩).negate) := by
  simp only [Clause.ofLambda, operandOf, bind_assoc, pure_bind]
  rfl

lemma ofLambda_compare {op : CompareOp} {name : String} {c : Column} {d : Datum}
    (hname : root.attribute? name = some (.column c)) :
    Clause.ofLambda root ⟨.param p, .compare op (.member (.param p) name) (.const d)⟩ = (do
      condition (.compare op (.member (.param p) name) (.const d))
        (← liftFault (compareOperands op (.clause (.column c)) (.value d)))) := by
  rw [Clause.ofLambda, operandOf, operandOf_member hname]
  rfl

/-- Joining two conditions. -/
lemma reads_connect (k : Connective) {x y : Clause} {s t : (Column → Value) → Truth}
    (hx : x.Reads s) (hy : y.Reads t) :
    (Clause.connect k x y).Reads fun row => k.combine (s row) (t row) where
  reversible := Clause.reversible_connect k hx.reversible hy.reversible
  verdict row := by rw [Clause.verdict_connect, hx.verdict, hy.verdict]

lemma reads_negate {x : Clause} {t : (Column → Value) → Truth} (hx : x.Reads t) :
    x.negate.Reads fun row => .notIf true (t row) where
  reversible := Clause.reversible_negate hx.reversible
  verdict row := by rw [Clause.verdict_negate hx.reversible, hx.verdict]

/-- **The clause of a condition has the reading of the condition.** -/
theorem ofLambda_reads (form : FilterBody root p body) (h : body.accepted = true) :
    ∃ x, Clause.ofLambda root ⟨.param p, body⟩ = .ok x ∧
      x.Reads fun row => body.reading root row := by
  induction form with
  | truth b o => exact ⟨.truth b, rfl, rfl, fun _ => rfl⟩
  | @compare op name c d hname htest =>
      obtain ⟨x, hx, hreads⟩ := compareOperands_accepted c htest.null h
      refine ⟨x, ?_, hreads.reversible, fun row => ?_⟩
      · rw [ofLambda_compare hname, hx]
        rfl
      · rw [hreads.verdict, Expr.reading, comparisonReading, hname]
  | and _ _ ihl ihr =>
      rw [Expr.accepted, Bool.and_eq_true] at h
      obtain ⟨x, hx, hxReads⟩ := ihl h.1
      obtain ⟨y, hy, hyReads⟩ := ihr h.2
      refine ⟨.connect .and x y, ?_, reads_connect .and hxReads hyReads⟩
      rw [ofLambda_and, hx, hy]
      rfl
  | or _ _ ihl ihr =>
      rw [Expr.accepted, Bool.and_eq_true] at h
      obtain ⟨x, hx, hxReads⟩ := ihl h.1
      obtain ⟨y, hy, hyReads⟩ := ihr h.2
      refine ⟨.connect .or x y, ?_, reads_connect .or hxReads hyReads⟩
      rw [ofLambda_or, hx, hy]
      rfl
  | not _ ih =>
      obtain ⟨x, hx, hreads⟩ := ih h
      refine ⟨x.negate, ?_, reads_negate hreads⟩
      rw [ofLambda_not, hx]
      rfl

/-- Without a part there is no whole. -/
lemma error_of_parts {α : Type} {x y : Except Error α} (f : α → α → α)
    (h : (∃ e, x = .error e) ∨ ∃ e, y = .error e) : ∃ e, (do return f (← x) (← y)) = .error e := by
  obtain ⟨e, rfl⟩ | ⟨e, rfl⟩ := h
  · exact ⟨e, rfl⟩
  · cases x with
    | error e' => exact ⟨e', rfl⟩
    | ok a => exact ⟨e, rfl⟩

/-- There is no clause if a constant is not accepted. -/
theorem ofLambda_rejected (form : FilterBody root p body) (h : body.accepted = false) :
    ∃ e, Clause.ofLambda root ⟨.param p, body⟩ = .error e := by
  induction form with
  | truth => cases h
  | @compare op name c d hname =>
      obtain ⟨f, hf⟩ := compareOperands_rejected c h
      rw [ofLambda_compare hname, hf]
      exact ⟨_, rfl⟩
  | and _ _ ihl ihr =>
      rw [ofLambda_and]
      exact error_of_parts _ ((Bool.and_eq_false_iff.mp h).imp ihl ihr)
  | or _ _ ihl ihr =>
      rw [ofLambda_or]
      exact error_of_parts _ ((Bool.and_eq_false_iff.mp h).imp ihl ihr)
  | not _ ih =>
      obtain ⟨e, he⟩ := ih h
      rw [ofLambda_not, he]
      exact ⟨e, rfl⟩

end Conditions

end Criteria.Sql
