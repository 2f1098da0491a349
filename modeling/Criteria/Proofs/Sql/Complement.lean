import Criteria.Proofs.Sql.Query

/-!
# Queries for complements

In memory a negated specification is satisfied exactly where the specification is not.  The two queries
are complements only where the reading of the specification is known: a row on which it is unknown is
selected by neither.

**Evaluation.**
* `ShowsRow` — an entity whose members are the columns of a row, null included.
* `comparisonTruth_of_holds` — a fitting comparison has the truth that evaluation gives.
* **`reading_of_satisfied`** — and so has a specification all of whose comparisons are fitting.

**Queries.**
* `Complementary` — two queries that select where a specification is true, and where it is false.
* **`negated_complement`** — so do the queries for a specification made of filters and its complement.
* `negated_complement_null` — a row with null that neither of two queries selects.
-/

namespace Criteria.Sql

/-! ## Evaluation -/

/-- The members of the entity are the values of the row's columns, null included. -/
def ShowsRow (root : EntityClass) (row : Column → Value) (entity : Item) : Prop :=
  ∀ {name : String} {c : Column}, root.attribute? name = some (.column c) →
    ∃ o, EvaluationProperties.default.read name entity = .ok (.datum ⟨row c, o⟩)

section Evaluation

variable {root : EntityClass} {p : Param} {body : Expr} {row : Column → Value} {entity : Item}

lemma eq_none_of_isNone {v : Value} (h : v.isNone = true) : v = .none := by
  cases v <;> first | rfl | cases h

/-- Null compared with null. -/
lemma comparisonTruth_none {t : ColumnType} {op : CompareOp} {o q : Origin} {b : Bool}
    (hd : t.admitsConstant op ⟨.none, q⟩ = true)
    (hb : op.holds (.datum ⟨.none, o⟩) (.datum ⟨.none, q⟩) = .ok b) :
    comparisonTruth op .none ⟨.none, q⟩ = some b := by
  cases op with
  | eq | ne | same | notSame =>
      cases hb
      rfl
  | lt | le | gt | ge | isIn | contains | like => cases t <;> cases hd

/-- **A fitting comparison has the truth that evaluation gives.** -/
theorem comparisonTruth_of_holds {t : ColumnType} {op : CompareOp} {v : Value} {o : Origin}
    {d : Datum} {b : Bool} (htest : Testable op d) (haccepted : acceptsConstant op d = true)
    (hd : t.admitsConstant op d = true) (hv : (t.admits v || (v.isNone && d.value.isNone)) = true)
    (hb : op.holds (.datum ⟨v, o⟩) (.datum d) = .ok b) : comparisonTruth op v d = some b := by
  obtain hadmits | hnull := Bool.or_eq_true _ _ ▸ hv
  · -- any column of the type will do, on a row with the value everywhere
    let c : Column := ⟨"", "", t, true⟩
    have hone : op = .isIn → unambiguous v d.value = true := by
      rintro rfl
      have htext := htest.collection rfl
      obtain ⟨w, q⟩ := d
      cases w <;> first | (cases v <;> rfl) | cases htext
    obtain ⟨x, hx, hreads⟩ := compareOperands_accepted c htest.null haccepted
    have hstands : StandsFor (fun _ => v) (.clause x) (op.holds (.datum ⟨v, o⟩) (.datum d)) :=
      compareOperands_column (c := c) hadmits hd hone hx
    obtain ⟨_, ⟨rfl⟩, -, hverdict⟩ := hstands
    rw [← hverdict b hb]
    exact (hreads.verdict fun _ => v).symm
  · rw [Bool.and_eq_true] at hnull
    obtain rfl := eq_none_of_isNone hnull.1
    obtain ⟨w, q⟩ := d
    obtain rfl : w = .none := eq_none_of_isNone hnull.2
    exact comparisonTruth_none hd hb

lemma FilterBody.isQuiet (form : FilterBody root p body) : body.isQuiet = true := by
  induction form with
  | truth | compare => rfl
  | and _ _ ihl ihr | or _ _ ihl ihr => rw [Expr.isQuiet, ihl, ihr]; rfl
  | not _ ih => exact ih

/-- **The value of a condition has the reading for its truth.** -/
theorem FilterBody.reading_of_value (form : FilterBody root p body) (shows : ShowsRow root row entity) :
    body.accepted = true → body.fits root row = true → ∀ {i : Item},
      body.value .default [(p, entity)] = .ok i → body.reading root row = some i.truthy := by
  induction form with
  | truth b o =>
      intro _ _ i hi
      cases hi
      rfl
  | @compare op name c d hname htest =>
      intro haccepted hfits i hi
      obtain ⟨o, hread⟩ := shows hname
      rw [Expr.value, value_member, hread] at hi
      obtain ⟨_, ⟨rfl⟩, hi⟩ := bind_eq_ok.mp hi
      obtain ⟨_, ⟨rfl⟩, hi⟩ := bind_eq_ok.mp hi
      obtain ⟨b, hb, hi⟩ := bind_eq_ok.mp hi
      cases hi
      rw [Expr.fits, comparisonFits, hname, Bool.and_eq_true] at hfits
      rw [Expr.reading, comparisonReading, hname]
      exact comparisonTruth_of_holds htest haccepted hfits.1 hfits.2 hb
  | and _ _ ihl ihr =>
      intro haccepted hfits i hi
      rw [Expr.accepted, Bool.and_eq_true] at haccepted
      rw [Expr.fits, Bool.and_eq_true] at hfits
      obtain ⟨j, hj, hi⟩ := bind_eq_ok.mp hi
      rw [Expr.reading, ihl haccepted.1 hfits.1 hj]
      split at hi
      next htrue =>
        rw [htrue, ihr haccepted.2 hfits.2 hi]
        exact Connective.combine_neutral_left .and _
      next hfalse =>
        cases hi
        rw [Bool.not_eq_true] at hfalse
        rw [hfalse]
        exact Connective.combine_absorb_left .and _
  | or _ _ ihl ihr =>
      intro haccepted hfits i hi
      rw [Expr.accepted, Bool.and_eq_true] at haccepted
      rw [Expr.fits, Bool.and_eq_true] at hfits
      obtain ⟨j, hj, hi⟩ := bind_eq_ok.mp hi
      rw [Expr.reading, ihl haccepted.1 hfits.1 hj]
      split at hi
      next htrue =>
        cases hi
        rw [htrue]
        exact Connective.combine_absorb_left .or _
      next hfalse =>
        rw [Bool.not_eq_true] at hfalse
        rw [hfalse, ihr haccepted.2 hfits.2 hi]
        exact Connective.combine_neutral_left .or _
  | not _ ih =>
      intro haccepted hfits i hi
      obtain ⟨j, hj, hi⟩ := bind_eq_ok.mp hi
      cases hi
      rw [Expr.reading, ih haccepted hfits hj, Truth.notIf_some, Bool.true_xor]
      rfl

/-- A lambda with such a condition holds where the condition has a true value. -/
lemma FilterBody.run_holds (form : FilterBody root p body) (host : Host) (w : World) :
    (Lambda.holds ⟨.param p, body⟩ .default host entity).run w =
      ((body.value .default [(p, entity)]).map Item.truthy, w) := by
  have hcall : (Compiled.call ⟨.default, .param p, body⟩ host entity).run w =
      (body.value .default [(p, entity)], w) := Compiled.call_quiet form.isQuiet host entity w
  rw [Lambda.holds, Run.run_bind]
  simp only [hcall]
  cases body.value .default [(p, entity)] <;> rfl

/-- **Evaluation gives the reading of a fitting specification.** -/
theorem reading_of_satisfied {s : Spec} (form : OverColumns root s) (accepted : s.accepted = true)
    (shows : ShowsRow root row entity) (fits : s.fits root row = true) {host : Host} {w w' : World}
    {b : Bool} (hb : s.satisfied host entity w = (.ok b, w')) : s.reading root row = some b := by
  obtain ⟨p, body, hrun, hbody⟩ := toLambda_reading form w.next
  have hclosed := Lambda.closed_of_check hbody.form.isProper hbody.form.check
  rw [Spec.satisfied_eq_holds hrun hclosed, hbody.form.run_holds] at hb
  cases hvalue : body.value .default [(p, entity)] with
  | error f =>
      rw [hvalue] at hb
      cases hb
  | ok i =>
      rw [hvalue] at hb
      cases hb
      rw [← hbody.reading]
      exact hbody.form.reading_of_value shows (hbody.accepted.trans accepted)
        ((hbody.fits row).trans fits) hvalue

end Evaluation

/-! ## Complements -/

/-- One query selects the rows where the specification is true, and the other those where it is false. -/
structure Complementary (root : EntityClass) (s : Spec) (x x' : Clause) : Prop where
  selects : ∀ row, x.selects row = true ↔ s.reading root row = some true
  omits : ∀ row, x'.selects row = true ↔ s.reading root row = some false
  /-- Never both queries select a row, and one does exactly if the reading is known. -/
  one : ∀ row, (x.selects row ^^ x'.selects row) = (s.reading root row).isSome ∧
    ¬ (x.selects row = true ∧ x'.selects row = true)
  fits : ∀ {row}, s.fits root row = true → (x.selects row ^^ x'.selects row) = true
  /-- On a fitting row the queries decide as evaluation does. -/
  satisfied : ∀ {row entity host w w' b}, s.fits root row = true → ShowsRow root row entity →
    s.satisfied host entity w = (.ok b, w') → x.selects row = b ∧ x'.selects row = !b

section Complements

variable {root : EntityClass} {s : Spec}

lemma selects_of_reads {x : Clause} {truth : (Column → Value) → Truth} (h : x.Reads truth)
    (row : Column → Value) :
    x.selects row = (truth row == some true) ∧ x.negate.selects row = (truth row == some false) := by
  rw [Clause.selects, Clause.selects, h.verdict, (reads_negate h).verdict]
  rcases truth row with _ | _ | _ <;> exact ⟨rfl, rfl⟩

/-- A clause with the reading of a specification, and its complement. -/
lemma complementary_of_reads (form : OverColumns root s) (accepted : s.accepted = true) {x : Clause}
    (h : x.Reads fun row => s.reading root row) : Complementary root s x x.negate where
  selects row := by rw [(selects_of_reads h row).1, beq_iff_eq]
  omits row := by rw [(selects_of_reads h row).2, beq_iff_eq]
  one row := by
    rw [(selects_of_reads h row).1, (selects_of_reads h row).2]
    rcases s.reading root row with _ | _ | _ <;> exact ⟨rfl, by decide⟩
  fits {row} hfits := by
    obtain ⟨b, hb⟩ := Option.isSome_iff_exists.mp (reading_of_fits form hfits)
    rw [(selects_of_reads h row).1, (selects_of_reads h row).2, hb]
    cases b <;> rfl
  satisfied {row _ _ _ _ b} hfits shows hb := by
    rw [(selects_of_reads h row).1, (selects_of_reads h row).2,
      reading_of_satisfied form accepted shows hfits hb]
    cases b <;> exact ⟨rfl, rfl⟩

/-- **Queries for complements.**  Let a specification be made of filters on the columns of an entity
class.  In memory the negated specification is satisfied exactly where the specification is not.  There
are two queries or none, depending on whether the constants are accepted.  On any row, exactly one of
the two selects it if the reading of the specification is known there, and neither does if it is not.
It is known wherever no column is null that is compared with a value, and then it is the truth that
evaluation gives. -/
theorem negated_complement (form : OverColumns root s) (n : Nat) :
    (∀ (host : Host) (entity : Item),
      (Spec.negated s).satisfied host entity = (do return !(← s.satisfied host entity))) ∧
    ∃ l l', s.toLambda.run n = .ok (l, n) ∧ (Spec.negated s).toLambda.run n = .ok (l', n) ∧
      (s.accepted = false →
        (∃ e, Clause.ofLambda root l = .error e) ∧ ∃ e, Clause.ofLambda root l' = .error e) ∧
      (s.accepted = true → ∃ x x', Clause.ofLambda root l = .ok x ∧ Clause.ofLambda root l' = .ok x' ∧
        Complementary root s x x') := by
  obtain ⟨p, body, hrun, hbody⟩ := toLambda_reading form n
  refine ⟨fun host entity => Spec.satisfied_negated form.closed host entity,
    ⟨.param p, body⟩, ⟨.param p, .not body⟩, hrun, Spec.toLambda_negated hrun, fun h => ?_, fun h => ?_⟩
  · rw [← hbody.accepted] at h
    exact ⟨ofLambda_rejected hbody.form h, ofLambda_rejected (.not hbody.form) h⟩
  · obtain ⟨x, hx, hreads⟩ := ofLambda_reads hbody.form (hbody.accepted.trans h)
    have hx' : Clause.ofLambda root ⟨.param p, .not body⟩ = .ok x.negate := by
      rw [ofLambda_not, hx]
      rfl
    have hspec : x.Reads fun row => s.reading root row :=
      ⟨hreads.reversible, fun row => (hreads.verdict row).trans (hbody.reading row)⟩
    exact ⟨x, x.negate, hx, hx', complementary_of_reads form h hspec⟩

end Complements

/-! ## A row with null -/

/-- A row whose biography is null. -/
def nobodyRow (c : Column) : Value := if c.name = "bio" then .none else adaRow c

/-- The row as an entity. -/
def nobody : Item :=
  .datum ⟨.record [("id", .int 1), ("name", .str "Ada"), ("role", .str "admin"), ("age", .int 36),
    ("active", .bool true), ("bio", .none)], ⟨1, []⟩⟩

/-- A leaf on the field, over parameter number `n`. -/
def fieldLeaf (n : Nat) (field : String) (build : Expr → Expr) : Spec :=
  .tree ⟨.param ⟨n, Param.defaultName⟩, build (.member (.param ⟨n, Param.defaultName⟩) field)⟩

/-- People with a biography whose name is none of two and whose age is not between two numbers, in
several negations. -/
def outsiders : Spec :=
  .combine .nor
    (.negated (fieldLeaf 2 "bio" fun m => .compare .notSame m (.const ⟨.none, ⟨0, []⟩⟩)))
    (.combine .or
      (fieldLeaf 3 "name" fun m =>
        .compare .isIn m (.const ⟨.tuple [.str "Alan", .str "Grace"], ⟨1, []⟩⟩))
      (.negated (fieldLeaf 4 "age" fun m =>
        .and (.compare .ge m (.const ⟨.int 18, ⟨2, []⟩⟩)) (.compare .le m (.const ⟨.int 65, ⟨2, []⟩⟩)))))

lemma isColumn_bio : IsColumn .user "bio" ⟨"spec_users", "bio", .text, true⟩ := ⟨by decide, rfl⟩

lemma overColumns_outsiders : OverColumns .user outsiders := by
  have hname : IsColumn .user "name" ⟨"spec_users", "name", .text, false⟩ := ⟨by decide, rfl⟩
  have hage : IsColumn .user "age" ⟨"spec_users", "age", .integer, false⟩ := ⟨by decide, rfl⟩
  have hmissing : (Spec.nullField .notSame (.str "bio")).run 2 = .ok (_, 3) := rfl
  have hnamed : (Spec.oneOf (.str "name") ⟨.list [.str "Alan", .str "Grace"], ⟨1, []⟩⟩).run 3 =
      .ok (_, 4) := rfl
  have haged : (Spec.between (.str "age") ⟨.int 18, ⟨2, []⟩⟩ ⟨.int 65, ⟨2, []⟩⟩).run 4 =
      .ok (_, 5) := rfl
  exact .combine .nor (.negated (.filter (.nullField isColumn_bio hmissing)))
    (.combine .or (.filter (.oneOf hname hnamed)) (.negated (.filter (.between hage haged))))

lemma showsRow_nobody : ShowsRow .user nobodyRow nobody := by
  intro name c h
  have hmem := mem_of_attribute h
  simp only [EntityClass.user, List.mem_cons, Prod.mk.injEq, Attribute.column.injEq, reduceCtorEq,
    and_false, List.not_mem_nil, or_false] at hmem
  obtain ⟨rfl, rfl⟩ | ⟨rfl, rfl⟩ | ⟨rfl, rfl⟩ | ⟨rfl, rfl⟩ | ⟨rfl, rfl⟩ | ⟨rfl, rfl⟩ := hmem <;>
    exact ⟨_, rfl⟩

/-- Tests for null are known on the row, and so is the whole. -/
theorem negated_complement_outsiders :
    OverColumns .user outsiders ∧ outsiders.accepted = true ∧ outsiders.fits .user nobodyRow = true ∧
      ShowsRow .user nobodyRow nobody ∧
      outsiders.satisfied Standard.host nobody ⟨[], 5⟩ = (.ok false, ⟨[], 5⟩) ∧
      (Spec.negated outsiders).satisfied Standard.host nobody ⟨[], 5⟩ = (.ok true, ⟨[], 5⟩) ∧
      ∃ l l' x x', outsiders.toLambda.run 5 = .ok (l, 5) ∧
        (Spec.negated outsiders).toLambda.run 5 = .ok (l', 5) ∧
        Clause.ofLambda .user l = .ok x ∧ Clause.ofLambda .user l' = .ok x' ∧
        x.selects nobodyRow = false ∧ x'.selects nobodyRow = true := by
  have haccepted : outsiders.accepted = true := rfl
  have hfits : outsiders.fits .user nobodyRow = true := rfl
  have hb : outsiders.satisfied Standard.host nobody ⟨[], 5⟩ = (.ok false, ⟨[], 5⟩) := rfl
  obtain ⟨hmemory, l, l', hl, hl', -, hqueries⟩ := negated_complement overColumns_outsiders 5
  obtain ⟨x, x', hx, hx', hrow⟩ := hqueries haccepted
  have hnegated : (Spec.negated outsiders).satisfied Standard.host nobody ⟨[], 5⟩ =
      (.ok true, ⟨[], 5⟩) := by
    rw [hmemory]
    rfl
  exact ⟨overColumns_outsiders, haccepted, hfits, showsRow_nobody, hb, hnegated, l, l', x, x', hl, hl',
    hx, hx', hrow.satisfied hfits showsRow_nobody hb⟩

/-- The filter for a biography. -/
def biography : Spec := fieldLeaf 2 "bio" fun m => .compare .eq m (.const ⟨.str "x", ⟨3, []⟩⟩)

/-- **A row that neither of two queries selects.**  In memory the row has another biography.  Neither the
query for the biography nor the one for all others selects it. -/
theorem negated_complement_null :
    OverColumns .user biography ∧
      biography.satisfied Standard.host nobody ⟨[], 4⟩ = (.ok false, ⟨[], 4⟩) ∧
      (Spec.negated biography).satisfied Standard.host nobody ⟨[], 4⟩ = (.ok true, ⟨[], 4⟩) ∧
      ∃ l l' x x', biography.toLambda.run 4 = .ok (l, 4) ∧
        (Spec.negated biography).toLambda.run 4 = .ok (l', 4) ∧
        Clause.ofLambda .user l = .ok x ∧ Clause.ofLambda .user l' = .ok x' ∧
        x.selects nobodyRow = false ∧ x'.selects nobodyRow = false := by
  have hrun : (Spec.compareField .eq (.str "bio") ⟨.str "x", ⟨3, []⟩⟩).run 2 = .ok (biography, 3) :=
    rfl
  have form : OverColumns .user biography :=
    .filter (.compareField isColumn_bio (by decide) hrun)
  exact ⟨form, rfl, rfl, _, _, _, _, rfl, rfl, rfl, rfl, rfl, rfl⟩

end Criteria.Sql
