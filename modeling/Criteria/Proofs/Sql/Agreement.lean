import Criteria.Eval.Compile
import Criteria.Proofs.Sql.Comparison

/-!
# Queries select the rows that satisfy the criterion

On rows without nulls the clause for a condition over columns is true exactly where evaluating the
condition in memory gives a true value, as long as no column is looked for in a bare text.  Evaluation
looks for a part of the text, the query for one of its characters.

* `ColumnCondition` — the conditions in question: truth values, boolean columns, comparisons of a
  column with a fitting constant, connectives and conditionals.
* `Unambiguous` — on the row, both readings of such memberships come to the same.
* `IsRow` — an entity whose members are the columns of a row without nulls.
* `Operand.Means` — the invariant.  The operand for a node can be negated, and its verdict is the truth
  of the node's value, if it has one; a node that evaluation skips may have any verdict.
* `operandOf_means` — unambiguous conditions satisfy it, by induction on the condition.
* **`ofLambda_agrees`** — the clause of a lambda has the verdict that evaluation gives, and a single
  comparison only if it is unambiguous.
* `ofLambda_searching` — a text that names somebody among others, and a query that finds nobody.
-/

namespace Criteria.Sql

/-- The conditions over the columns of an entity class, for the parameter `p`.  A column holds integers,
texts or truth values: there are no others (`ColumnType`). -/
inductive ColumnCondition (root : EntityClass) (p : Param) : Expr → Prop where
  | truth {d : Datum} {b : Bool} : d.value = .bool b → ColumnCondition root p (.const d)
  | member {name : String} {c : Column} :
      root.attribute? name = some (.column c) → c.type = .boolean →
      ColumnCondition root p (.member (.param p) name)
  | column {op : CompareOp} {name : String} {c : Column} {d : Datum} :
      root.attribute? name = some (.column c) → c.type.admitsConstant op d = true →
      ColumnCondition root p (.compare op (.member (.param p) name) (.const d))
  /-- Only relations may have the column on the right. -/
  | constant {op : CompareOp} {r : Relation} {name : String} {c : Column} {d : Datum} :
      relation? op = some r → root.attribute? name = some (.column c) →
      c.type.admitsConstant op d = true →
      ColumnCondition root p (.compare op (.const d) (.member (.param p) name))
  | and {l r : Expr} : ColumnCondition root p l → ColumnCondition root p r →
      ColumnCondition root p (.and l r)
  | or {l r : Expr} : ColumnCondition root p l → ColumnCondition root p r →
      ColumnCondition root p (.or l r)
  | not {e : Expr} : ColumnCondition root p e → ColumnCondition root p (.not e)
  | cond {test yes no : Expr} : ColumnCondition root p test → ColumnCondition root p yes →
      ColumnCondition root p no → ColumnCondition root p (.cond test yes no)

/-- Whether the memberships of columns in bare texts have one reading on the row. -/
def Unambiguous (root : EntityClass) (row : Column → Value) : Expr → Prop
  | .compare .isIn (.member _ name) (.const d) =>
    ∀ c, root.attribute? name = some (.column c) → unambiguous (row c) d.value = true
  | .and l r | .or l r => Unambiguous root row l ∧ Unambiguous root row r
  | .not e => Unambiguous root row e
  | .cond test yes no =>
    Unambiguous root row test ∧ Unambiguous root row yes ∧ Unambiguous root row no
  | _ => True

/-- A condition over columns only looks at the entity. -/
lemma ColumnCondition.isQuiet {root : EntityClass} {p : Param} {e : Expr}
    (form : ColumnCondition root p e) : e.isQuiet = true := by
  induction form with
  | truth | member | column | constant => rfl
  | and _ _ ihl ihr | or _ _ ihl ihr => rw [Expr.isQuiet, ihl, ihr]; rfl
  | not _ ih => exact ih
  | cond _ _ _ iht ihy ihn => rw [Expr.isQuiet, iht, ihy, ihn]; rfl

/-- An entity that is a row without nulls: its members are the values of the columns. -/
structure IsRow (props : EvaluationProperties) (root : EntityClass) (row : Column → Value)
    (entity : Item) : Prop where
  typed : ∀ {name : String} {c : Column}, root.attribute? name = some (.column c) →
    c.type.admits (row c) = true
  reads : ∀ {name : String} {c : Column}, root.attribute? name = some (.column c) →
    ∃ o, props.read name entity = .ok (.datum ⟨row c, o⟩)

/-! ## Operands -/

section Operands

variable {row : Column → Value}

/-- The operand can be negated, and has the truth of the outcome as its verdict. -/
structure Operand.Means (row : Column → Value) (out : Operand) (outcome : Except Fault Item) :
    Prop where
  reversible : ∀ c, out = .clause c → c.reversible = true
  verdict : ∀ i, outcome = .ok i → out.verdict row = some i.truthy

lemma verdict_condition {node : Expr} {out : Operand} {c : Clause}
    (h : condition node out = .ok c) : c.verdict row = out.verdict row := by
  unfold condition at h
  split at h <;> cases h <;> rfl

lemma reversible_condition {node : Expr} {out : Operand} {c : Clause}
    (h : condition node out = .ok c) (hout : ∀ c, out = .clause c → c.reversible = true) :
    c.reversible = true := by
  unfold condition at h
  split at h <;> cases h
  · exact hout _ rfl
  · rfl

/-- A value passed beside the query keeps its truth. -/
lemma ofValue_passed {out : Operand} {v : Value} (h : out.passed = .ok v) :
    Truth.ofValue v = out.verdict row := by
  cases out with
  | value d =>
      cases h
      rfl
  | root cls =>
      rw [Operand.passed] at h
      split_ifs at h
      cases h
      rfl
  | clause c => cases h

lemma verdict_branch (row : Column → Value) {out : Operand} {c : Clause} (h : branch out = .ok c) :
    c.verdict row = out.verdict row := by
  unfold branch at h
  split at h
  · cases h
    rfl
  · cases h
    rfl
  · obtain ⟨v, hv, h⟩ := bind_eq_ok.mp h
    cases h
    exact ofValue_passed hv

/-- A conditional has the verdict of the branch that the test chooses. -/
lemma verdict_conditional {test : Clause} {yes no : Operand} {c : Clause}
    (h : conditional test yes no = .ok c) :
    c.verdict row = if test.verdict row = some true then yes.verdict row else no.verdict row := by
  obtain ⟨a, ha, h⟩ := bind_eq_ok.mp h
  rw [← verdict_branch row ha, ← Clause.verdict_protect .isolated test]
  split at h
  · cases h
    exact apply_ite Truth.ofValue _ _ _
  · obtain ⟨b, hb, h⟩ := bind_eq_ok.mp h
    cases h
    rw [← verdict_branch row hb]
    exact apply_ite Truth.ofValue _ _ _

lemma reversible_conditional {test : Clause} {yes no : Operand} {c : Clause}
    (h : conditional test yes no = .ok c) : c.reversible = true := by
  obtain ⟨a, -, h⟩ := bind_eq_ok.mp h
  split at h
  · cases h
    rfl
  · obtain ⟨b, -, h⟩ := bind_eq_ok.mp h
    cases h
    rfl

end Operands

/-! ## Conditions -/

section Conditions

variable {root : EntityClass} {p : Param} {row : Column → Value} {props : EvaluationProperties}
  {entity : Item}

lemma operandOf_member {name : String} {c : Column}
    (hname : root.attribute? name = some (.column c)) :
    operandOf root (.param p) (.member (.param p) name) = .ok (.clause (.column c)) := by
  have hroot : rootOperand root (.param p) p = .ok (.root root) := if_pos rfl
  rw [operandOf, memberOperand]
  exact bind_eq_ok.mpr ⟨_, hroot, by rw [hname]; rfl⟩

lemma value_member (name : String) :
    Expr.value props [(p, entity)] (.member (.param p) name) = props.read name entity := by
  rw [Expr.value, Expr.value, List.lookup_cons_self]
  rfl

/-- What stands for a comparison of two values means the comparison. -/
lemma means_of_standsFor {out : Operand} {a b : Item} {op : CompareOp}
    (h : StandsFor row out (op.holds a b)) :
    out.Means row (do let holds ← op.holds a b; return .ofBool holds) := by
  obtain ⟨c, rfl, hrev, hverdict⟩ := h
  refine ⟨fun c' hc => ?_, fun i hi => ?_⟩
  · cases hc
    exact hrev
  · obtain ⟨b, hb, hi⟩ := bind_eq_ok.mp hi
    cases hi
    exact hverdict b hb

lemma ok_of_liftFault {α : Type} {x : Except Fault α} {a : α} (h : liftFault x = .ok a) :
    x = .ok a := by
  cases x with
  | ok b => exact congrArg Except.ok (Except.ok.inj h)
  | error f => cases h

/-- Two conditions joined. -/
lemma means_connect {k : Connective} {x y : Clause} {l r : Expr} {a b : Operand}
    {outcome left right : Except Fault Item} (ha : a.Means row left) (hb : b.Means row right)
    (hx : condition l a = .ok x) (hy : condition r b = .ok y)
    (houtcome : ∀ i, outcome = .ok i → ∃ j, left = .ok j ∧
      (j.truthy = !k.neutral ∧ i = j ∨ j.truthy = k.neutral ∧ right = .ok i)) :
    (Operand.clause (Clause.connect k x y)).Means row outcome := by
  refine ⟨fun c hc => ?_, fun i hi => ?_⟩
  · cases hc
    exact Clause.reversible_connect k (reversible_condition hx ha.reversible)
      (reversible_condition hy hb.reversible)
  · obtain ⟨j, hj, hcases⟩ := houtcome i hi
    show (Clause.connect k x y).verdict row = some i.truthy
    rw [Clause.verdict_connect, verdict_condition hx, verdict_condition hy, ha.verdict j hj]
    obtain ⟨htruthy, rfl⟩ | ⟨htruthy, hright⟩ := hcases
    · rw [htruthy, Connective.combine_absorb_left]
    · rw [htruthy, Connective.combine_neutral_left, hb.verdict i hright]

/-- **The operand of a condition means the condition.** -/
theorem operandOf_means (isRow : IsRow props root row entity) {e : Expr}
    (form : ColumnCondition root p e) : Unambiguous root row e →
      ∀ {out : Operand}, operandOf root (.param p) e = .ok out →
        out.Means row (e.value props [(p, entity)]) := by
  induction form with
  | @truth d b hd =>
      intro _ out h
      cases h
      refine ⟨fun c hc => (nomatch hc), fun i hi => ?_⟩
      cases hi
      show Truth.ofValue d.value = some d.value.truthy
      rw [hd]
      rfl
  | @member name c hname htype =>
      intro _ out h
      rw [operandOf_member hname] at h
      cases h
      refine ⟨fun c' hc => by cases hc; rfl, fun i hi => ?_⟩
      obtain ⟨o, hread⟩ := isRow.reads hname
      rw [value_member, hread] at hi
      cases hi
      have htyped := isRow.typed hname
      rw [htype] at htyped
      show Truth.ofValue (row c) = some (row c).truthy
      cases hv : row c <;> rw [hv] at htyped <;> first | rfl | exact absurd htyped Bool.false_ne_true
  | @column op name c d hname hconstant =>
      intro hone out h
      obtain ⟨o, hread⟩ := isRow.reads hname
      rw [operandOf, operandOf_member hname] at h
      have hreading : op = .isIn → unambiguous (row c) d.value = true := by
        rintro rfl
        exact hone c hname
      have hstands := compareOperands_column (o := o) (isRow.typed hname) hconstant hreading
        (ok_of_liftFault h)
      have hmeans := means_of_standsFor hstands
      rw [Expr.value, value_member, hread]
      exact hmeans
  | @constant op r name c d hr hname hconstant =>
      intro _ out h
      obtain ⟨o, hread⟩ := isRow.reads hname
      rw [operandOf, operandOf_member hname, hr] at h
      have hstands := compareOperands_constant (o := o) hr (isRow.typed hname) hconstant
        (ok_of_liftFault h)
      have hmeans := means_of_standsFor hstands
      rw [Expr.value, value_member, hread]
      exact hmeans
  | and _ _ ihl ihr =>
      rintro ⟨hl, hr⟩ out h
      obtain ⟨a, ha, h⟩ := bind_eq_ok.mp h
      obtain ⟨x, hx, h⟩ := bind_eq_ok.mp h
      obtain ⟨b, hb, h⟩ := bind_eq_ok.mp h
      obtain ⟨y, hy, h⟩ := bind_eq_ok.mp h
      cases h
      refine means_connect (ihl hl ha) (ihr hr hb) hx hy fun i hi => ?_
      obtain ⟨j, hj, hi⟩ := bind_eq_ok.mp hi
      refine ⟨j, hj, ?_⟩
      split at hi
      next htrue => exact .inr ⟨htrue, hi⟩
      next hfalse => exact .inl ⟨Bool.eq_false_of_not_eq_true hfalse, (Except.ok.inj hi).symm⟩
  | or _ _ ihl ihr =>
      rintro ⟨hl, hr⟩ out h
      obtain ⟨a, ha, h⟩ := bind_eq_ok.mp h
      obtain ⟨x, hx, h⟩ := bind_eq_ok.mp h
      obtain ⟨b, hb, h⟩ := bind_eq_ok.mp h
      obtain ⟨y, hy, h⟩ := bind_eq_ok.mp h
      cases h
      refine means_connect (ihl hl ha) (ihr hr hb) hx hy fun i hi => ?_
      obtain ⟨j, hj, hi⟩ := bind_eq_ok.mp hi
      refine ⟨j, hj, ?_⟩
      split at hi
      next htrue => exact .inl ⟨htrue, (Except.ok.inj hi).symm⟩
      next hfalse => exact .inr ⟨Bool.eq_false_of_not_eq_true hfalse, hi⟩
  | not _ ih =>
      intro hone out h
      obtain ⟨a, ha, h⟩ := bind_eq_ok.mp h
      obtain ⟨x, hx, h⟩ := bind_eq_ok.mp h
      cases h
      have hmeans := ih hone ha
      have hrev := reversible_condition hx hmeans.reversible
      refine ⟨fun c hc => ?_, fun i hi => ?_⟩
      · cases hc
        exact Clause.reversible_negate hrev
      · obtain ⟨j, hj, hi⟩ := bind_eq_ok.mp hi
        cases hi
        show x.negate.verdict row = some !j.truthy
        rw [Clause.verdict_negate hrev, verdict_condition hx, hmeans.verdict j hj,
          Truth.notIf_some, Bool.true_xor]
  | cond _ _ _ iht ihy ihn =>
      rintro ⟨htest, hyes, hno⟩ out h
      obtain ⟨t, ht, h⟩ := bind_eq_ok.mp h
      obtain ⟨x, hx, h⟩ := bind_eq_ok.mp h
      obtain ⟨a, ha, h⟩ := bind_eq_ok.mp h
      obtain ⟨b, hb, h⟩ := bind_eq_ok.mp h
      obtain ⟨c, hc, h⟩ := bind_eq_ok.mp h
      cases h
      have hc := ok_of_liftFault hc
      refine ⟨fun c' hc' => ?_, fun i hi => ?_⟩
      · cases hc'
        exact reversible_conditional hc
      · obtain ⟨j, hj, hi⟩ := bind_eq_ok.mp hi
        show c.verdict row = some i.truthy
        rw [verdict_conditional hc, verdict_condition hx, (iht htest ht).verdict j hj]
        split at hi
        next htrue => rw [htrue, if_pos rfl, (ihy hyes ha).verdict i hi]
        next hfalse =>
          rw [Bool.not_eq_true] at hfalse
          rw [hfalse, if_neg (by simp), (ihn hno hb).verdict i hi]

/-- A comparison that has one outcome on both sides is unambiguous. -/
lemma unambiguous_of_comparison (isRow : IsRow props root row entity) {op : CompareOp} {l r : Expr}
    (form : ColumnCondition root p (.compare op l r)) {out : Operand}
    (h : operandOf root (.param p) (.compare op l r) = .ok out) {i : Item}
    (hi : Expr.value props [(p, entity)] (.compare op l r) = .ok i)
    (agree : out.verdict row = some true ↔ i.truthy = true) :
    Unambiguous root row (.compare op l r) := by
  cases form with
  | @column _ name c d hname hconstant =>
      cases op with
      | isIn =>
          intro c' hc'
          obtain rfl : c = c' := by simpa [hname] using hc'
          obtain ⟨o, hread⟩ := isRow.reads hname
          rw [operandOf, operandOf_member hname] at h
          rw [Expr.value, value_member, hread] at hi
          obtain ⟨_, ⟨rfl⟩, hi⟩ := bind_eq_ok.mp hi
          obtain ⟨_, ⟨rfl⟩, hi⟩ := bind_eq_ok.mp hi
          obtain ⟨b, hb, hi⟩ := bind_eq_ok.mp hi
          cases hi
          exact unambiguous_of_isIn (ok_of_liftFault h) hb agree
      | _ => trivial
  | constant hr => cases op <;> trivial

/-- **Queries select the rows that satisfy the criterion.**  Let the body of a lambda be a condition
over columns and the entity a row without nulls.  Let the lambda be accepted as a query, compile, and
evaluate on the entity without a fault.  If memberships in bare texts are unambiguous on the row, the
clause is true on it if the result is true, and false if it is not.  If the body is a comparison, this
is also necessary for the query to select the row exactly if the result is true. -/
theorem ofLambda_agrees {body : Expr} (form : ColumnCondition root p body)
    (isRow : IsRow props root row entity) {clause : Clause}
    (accepted : Clause.ofLambda root ⟨.param p, body⟩ = .ok clause) {compiled : Compiled}
    (hcompiled : (Expr.lambda (.param p) body).compile props = .ok compiled) {host : Host}
    {w w' : World} {i : Item} (evaluated : (compiled.call host entity).run w = (.ok i, w')) :
    (Unambiguous root row body → clause.verdict row = some i.truthy ∧
      (clause.selects row = true ↔ i.truthy = true)) ∧
    ∀ op l r, body = .compare op l r → (clause.selects row = true ↔ i.truthy = true) →
      Unambiguous root row body := by
  obtain rfl := Compiled.eq_of_compile hcompiled
  rw [Compiled.call_quiet form.isQuiet, Prod.mk.injEq] at evaluated
  obtain ⟨_, -, hvalue⟩ := bind_eq_ok.mp evaluated.1
  obtain ⟨out, hout, hclause⟩ := bind_eq_ok.mp accepted
  have hselects : clause.selects row = true ↔ clause.verdict row = some true := by
    rw [Clause.selects, beq_iff_eq]
  constructor
  · intro hone
    have hverdict : clause.verdict row = some i.truthy := by
      rw [verdict_condition hclause]
      exact (operandOf_means isRow form hone hout).verdict i hvalue
    refine ⟨hverdict, ?_⟩
    rw [hselects, hverdict, Option.some.injEq]
  · rintro op l r rfl agree
    rw [hselects, verdict_condition hclause] at agree
    exact unambiguous_of_comparison isRow form hout hvalue agree

end Conditions

/-! ## A row of people -/

/-- The values of one row. -/
def adaRow (c : Column) : Value :=
  match c.name with
  | "id" => .int 1
  | "name" => .str "Ada"
  | "role" => .str "admin"
  | "age" => .int 36
  | "active" => .bool true
  | "bio" => .str "100%"
  | _ => .none

/-- The row as an entity. -/
def ada : Item :=
  .datum ⟨.record [("id", .int 1), ("name", .str "Ada"), ("role", .str "admin"), ("age", .int 36),
    ("active", .bool true), ("bio", .str "100%")], ⟨1, []⟩⟩

lemma mem_of_attribute {root : EntityClass} {name : String} {a : Attribute}
    (h : root.attribute? name = some a) : (name, a) ∈ root.attributes := by
  have hlookup : root.attributes.lookup name = some a := by
    unfold EntityClass.attribute? at h
    split at h
    · cases h
    · exact h
  obtain ⟨l₁, l₂, hl, -⟩ := List.lookup_eq_some_iff.mp hlookup
  rw [hl]
  exact List.mem_append_right _ (List.mem_cons_self)

lemma isRow_ada : IsRow .default .user adaRow ada := by
  constructor <;>
  · intro name c h
    have hmem := mem_of_attribute h
    simp only [EntityClass.user, List.mem_cons, Prod.mk.injEq, Attribute.column.injEq,
      reduceCtorEq, and_false, List.not_mem_nil, or_false] at hmem
    obtain ⟨rfl, rfl⟩ | ⟨rfl, rfl⟩ | ⟨rfl, rfl⟩ | ⟨rfl, rfl⟩ | ⟨rfl, rfl⟩ | ⟨rfl, rfl⟩ := hmem <;>
      first | rfl | exact ⟨_, rfl⟩

/-- A conditional with a pattern, a collection and a reflected comparison. -/
def senior : Lambda :=
  let u : Expr := .param ⟨1, "u"⟩
  ⟨u, .cond (.member u "active")
    (.and (.compare .like (.member u "role") (.const ⟨.str "ad%", ⟨2, []⟩⟩))
      (.not (.compare .isIn (.member u "age") (.const ⟨.tuple [.int 1, .int 2], ⟨3, []⟩⟩))))
    (.compare .lt (.const ⟨.int 18, ⟨4, []⟩⟩) (.member u "age"))⟩

/-- A name that is looked for in a text. -/
def searching (text : String) : Lambda :=
  let u : Expr := .param ⟨1, "u"⟩
  ⟨u, .compare .isIn (.member u "name") (.const ⟨.str text, ⟨2, []⟩⟩)⟩

/-- The query for seniors selects the row, the query for one of the others does not. -/
theorem ofLambda_agrees_ada :
    (ColumnCondition .user ⟨1, "u"⟩ senior.body ∧ IsRow .default .user adaRow ada ∧
      Unambiguous .user adaRow senior.body ∧
      ∃ clause, Clause.ofLambda .user senior = .ok clause ∧
        (Compiled.call ⟨.default, senior.binder, senior.body⟩ (fun _ _ => .fail .foreignNode)
          ada).run ⟨[], 5⟩ = (.ok (.ofBool true), ⟨[], 5⟩) ∧
        clause.verdict adaRow = some true ∧ clause.selects adaRow = true) ∧
      ∃ clause, Clause.ofLambda .user (searching "Grace, Alan") = .ok clause ∧
        clause.selects adaRow = false ∧ Unambiguous .user adaRow (searching "Grace, Alan").body := by
  constructor
  · have form : ColumnCondition .user ⟨1, "u"⟩ senior.body :=
      .cond (.member rfl rfl) (.and (.column rfl rfl) (.not (.column rfl rfl)))
        (.constant rfl rfl rfl)
    have hone : Unambiguous .user adaRow senior.body :=
      ⟨trivial, ⟨trivial, fun c hc => by cases hc; rfl⟩, trivial⟩
    obtain ⟨clause, accepted⟩ : ∃ clause, Clause.ofLambda .user senior = .ok clause := ⟨_, rfl⟩
    have compiled : senior.toExpr.compile .default =
        .ok ⟨.default, senior.binder, senior.body⟩ := rfl
    have evaluated : (Compiled.call ⟨.default, senior.binder, senior.body⟩
        (fun _ _ => .fail .foreignNode) ada).run ⟨[], 5⟩ = (.ok (.ofBool true), ⟨[], 5⟩) := rfl
    obtain ⟨hverdict, hselects⟩ :=
      (ofLambda_agrees form isRow_ada accepted compiled evaluated).1 hone
    exact ⟨form, isRow_ada, hone, clause, accepted, evaluated, hverdict, hselects.mpr rfl⟩
  · have form : ColumnCondition .user ⟨1, "u"⟩ (searching "Grace, Alan").body := .column rfl rfl
    have evaluated : (Compiled.call ⟨.default, .param ⟨1, "u"⟩, (searching "Grace, Alan").body⟩
        (fun _ _ => .fail .foreignNode) ada).run ⟨[], 5⟩ = (.ok (.ofBool false), ⟨[], 5⟩) := rfl
    have agree : false = true ↔ (Item.ofBool false).truthy = true := Iff.rfl
    exact ⟨_, rfl, rfl,
      (ofLambda_agrees form isRow_ada rfl rfl evaluated).2 .isIn _ _ rfl agree⟩

/-- **A text is no list.**  Evaluation finds the name in the text, the query finds it among the
characters of the text nowhere. -/
theorem ofLambda_searching :
    ColumnCondition .user ⟨1, "u"⟩ (searching "Ada, Grace").body ∧
      IsRow .default .user adaRow ada ∧
      ∃ clause, Clause.ofLambda .user (searching "Ada, Grace") = .ok clause ∧
        (searching "Ada, Grace").toExpr.compile .default =
          .ok ⟨.default, .param ⟨1, "u"⟩, (searching "Ada, Grace").body⟩ ∧
        (Compiled.call ⟨.default, .param ⟨1, "u"⟩, (searching "Ada, Grace").body⟩
          (fun _ _ => .fail .foreignNode) ada).run ⟨[], 5⟩ = (.ok (.ofBool true), ⟨[], 5⟩) ∧
        clause.verdict adaRow = some false ∧ clause.selects adaRow = false :=
  ⟨.column rfl rfl, isRow_ada, _, rfl, rfl, rfl, rfl, rfl⟩

end Criteria.Sql
