import Criteria.Proofs.Eval.Simulation
import Criteria.Spec.Field
import Criteria.Spec.Satisfy

/-!
# Deciding a specification part by part

The reference for combined specifications: every leaf is evaluated on its own, under its own
parameter, and the results are combined afterwards.

**The reference.**
* `Lambda.holds` — a condition, evaluated on an entity.
* `Combination.decide` — two decisions combined.  The second one is only made if the first leaves the
  result open.
* `Spec.decide`, `Recipe.decide` — specifications, and the ways to put them together.

**Isolation.**  A leaf refers to its own parameter.  `Spec.Isolated` asks that no lambda inside a leaf
binds a parameter which some leaf of the specification stands on (`Spec.outerParams`).
* `onField_closed`, `compareField_closed` — leaves on a field are closed by construction.
-/

namespace Criteria

/-! ## Conditions -/

/-- A way to decide whether an entity satisfies a condition. -/
abbrev Decision := EvaluationProperties → Host → Item → Run Bool

namespace Lambda

/-- Whether the condition holds of an entity. -/
def holds (l : Lambda) : Decision := fun props host entity => do
  return (← Compiled.call ⟨props, l.binder, l.body⟩ host entity).truthy

/-- Alpha-equivalent conditions hold alike. -/
lemma holds_sim (props : EvaluationProperties) (host : Host) (entity : Item) {l l' : Lambda}
    (h : Expr.AlphaEq [] l.toExpr l'.toExpr) :
    Run.Sim Eq (l.holds props host entity) (l'.holds props host entity) := by
  refine .bind (Compiled.call_sim h host entity) fun i i' hi => ?_
  rw [hi.truthy_eq]
  exact .pure rfl

/-- The condition holds exactly when the decision says so, with the same faults and effects. -/
def Decides (l : Lambda) (d : Decision) : Prop :=
  ∀ (props : EvaluationProperties) (host : Host) (entity : Item),
    Run.Sim Eq (l.holds props host entity) (d props host entity)

lemma decides_holds (l : Lambda) : l.Decides l.holds :=
  fun props host entity => holds_sim props host entity (Expr.AlphaEq.refl [] l.toExpr)

section Bodies

variable {props : EvaluationProperties} {host : Host} {entity : Item} {p : Param} {a b : Expr}

/-- A condition over a parameter evaluates its body. -/
lemma holds_param : holds ⟨.param p, a⟩ props host entity =
    (do return (← a.eval ⟨props, host⟩ ((⟨props, host⟩ : Evaluator).apply depthLimit)
      [(p, entity)]).truthy) := rfl

lemma holds_not : holds ⟨.param p, .not a⟩ props host entity =
    (do return !(← holds ⟨.param p, a⟩ props host entity)) := by
  simp only [holds_param, Expr.eval, bind_assoc, pure_bind]
  rfl

lemma holds_and : holds ⟨.param p, .and a b⟩ props host entity =
    (do if ← holds ⟨.param p, a⟩ props host entity then holds ⟨.param p, b⟩ props host entity
        else return false) := by
  simp only [holds_param, Expr.eval, bind_assoc, pure_bind]
  refine bind_congr fun i => ?_
  cases h : i.truthy <;> simp [h]

lemma holds_or : holds ⟨.param p, .or a b⟩ props host entity =
    (do if ← holds ⟨.param p, a⟩ props host entity then return true
        else holds ⟨.param p, b⟩ props host entity) := by
  simp only [holds_param, Expr.eval, bind_assoc, pure_bind]
  refine bind_congr fun i => ?_
  cases h : i.truthy <;> simp [h]

end Bodies

end Lambda

/-! ## Combined decisions -/

namespace Combination

/-- Two decisions combined, the left one first and the right one only if it matters. -/
def decide : Combination → Run Bool → Run Bool → Run Bool
  | and, l, r => do if ← l then r else return false
  | or, l, r => do if ← l then return true else r
  | nand, l, r => do if ← l then return !(← r) else return true
  | nor, l, r => do if ← l then return false else return !(← r)

/-- Related decisions combine to related ones, whatever the relation between the worlds is. -/
lemma decide_related {W : World → World → Prop} (c : Combination) {l l' r r' : Run Bool}
    (hl : Run.Related W Eq l l') (hr : Run.Related W Eq r r') :
    Run.Related W Eq (c.decide l r) (c.decide l' r') := by
  cases c with
  | and =>
      refine .bind hl ?_
      rintro b _ rfl
      cases b
      · exact .pure rfl
      · exact hr
  | or =>
      refine .bind hl ?_
      rintro b _ rfl
      cases b
      · exact hr
      · exact .pure rfl
  | nand =>
      refine .bind hl ?_
      rintro b _ rfl
      cases b
      · exact .pure rfl
      · refine .bind hr ?_
        rintro b _ rfl
        exact .pure rfl
  | nor =>
      refine .bind hl ?_
      rintro b _ rfl
      cases b
      · refine .bind hr ?_
        rintro b _ rfl
        exact .pure rfl
      · exact .pure rfl

lemma decide_sim (c : Combination) {l l' r r' : Run Bool} (hl : Run.Sim Eq l l')
    (hr : Run.Sim Eq r r') : Run.Sim Eq (c.decide l r) (c.decide l' r') :=
  c.decide_related hl hr

/-- The combination that joins the negated operands of a negative one. -/
def plain : Combination → Combination
  | and | nor => and
  | or | nand => or

/-- The laws of De Morgan, with the order of evaluation. -/
lemma decide_of_negates {c : Combination} (h : c.negates = true) (l r : Run Bool) :
    c.decide l r = c.plain.decide (do return !(← l)) (do return !(← r)) := by
  cases c with
  | and | or => simp [negates] at h
  | nand | nor =>
      simp only [plain, decide, bind_assoc, pure_bind]
      refine bind_congr fun b => ?_
      cases b <;> rfl

lemma decide_of_not_negates {c : Combination} (h : c.negates = false) (l r : Run Bool) :
    c.decide l r = c.plain.decide l r := by
  cases c with
  | and | or => rfl
  | nand | nor => simp [negates] at h

end Combination

namespace Spec

/-- Whether the specification holds of an entity, decided leaf by leaf. -/
def decide : Spec → Decision
  | everything => fun _ _ _ => return true
  | tree l => l.holds
  | predicate f label p => Lambda.holds ⟨.param p, .call (.function f) [.param p] label⟩
  | template p body => Lambda.holds ⟨.param p, body⟩
  | combine c l r => fun props host entity =>
    c.decide (l.decide props host entity) (r.decide props host entity)
  | negated s => fun props host entity => do return !(← s.decide props host entity)

end Spec

/-- How a specification is put together. -/
inductive Recipe where
  /-- A specification that is already there. -/
  | given (s : Spec)
  /-- A combination made by its constructor, which keeps both operands whatever they are. -/
  | construct (c : Combination) (left right : Recipe)
  /-- A combination made by its operation, which leaves the neutral element out. -/
  | operate (c : Combination) (left right : Recipe)
  | negate (r : Recipe)

namespace Recipe

/-- The specification that comes out. -/
def spec : Recipe → Spec
  | given s => s
  | construct c l r => .combine c l.spec r.spec
  | operate c l r => Spec.join c l.spec r.spec
  | negate r => .negated r.spec

/-- Whether the recipe's specification holds of an entity, decided leaf by leaf.  An operation with
the neutral element is decided by its other operand. -/
def decide : Recipe → Decision
  | given s => s.decide
  | construct c l r => fun props host entity =>
    c.decide (l.decide props host entity) (r.decide props host entity)
  | operate c l r => fun props host entity =>
    if l.spec.isEverything then r.decide props host entity
    else if r.spec.isEverything then l.decide props host entity
    else c.decide (l.decide props host entity) (r.decide props host entity)
  | negate r => fun props host entity => do return !(← r.decide props host entity)

/-- The specification of a recipe is decided as the recipe is. -/
lemma decide_spec (r : Recipe) : r.spec.decide = r.decide := by
  induction r with
  | given s => rfl
  | construct c l r ihl ihr => rw [spec, Spec.decide, decide, ihl, ihr]
  | operate c l r ihl ihr =>
      funext props host entity
      rw [spec, Spec.join, decide]
      split_ifs
      · rw [ihr]
      · rw [ihl]
      · rw [Spec.decide, ihl, ihr]
  | negate r ih => rw [spec, Spec.decide, decide, ih]

end Recipe

/-! ## Isolation -/

namespace Spec

/-- The lambdas of the leaves, from left to right. -/
def lambdas : Spec → List Lambda
  | everything => [⟨.param .universal, .const ⟨.bool true, ⟨0, []⟩⟩⟩]
  | tree l => [l]
  | predicate f label p => [⟨.param p, .call (.function f) [.param p] label⟩]
  | template p body => [⟨.param p, body⟩]
  | combine _ l r => l.lambdas ++ r.lambdas
  | negated s => s.lambdas

/-- How many leaves make a new copy of their lambda. -/
def copies : Spec → Nat
  | everything | tree _ | predicate .. => 0
  | template .. => 1
  | combine _ l r => l.copies + r.copies
  | negated s => s.copies

/-- The parameters on which the leaves stand, and those of the new copies if they are numbered from
`n` on. -/
def outerParams (s : Spec) (n : Nat) : List Param :=
  s.lambdas.filterMap (·.binder.asParam?) ++
    (List.range' n s.copies).map fun i => ⟨i, Param.defaultName⟩

end Spec

/-- A lambda of the grammar without free parameters. -/
def Lambda.Closed (l : Lambda) : Prop :=
  l.toExpr.isProper = true ∧ Expr.freeParams l.binder l.body = .ok []

/-- Every leaf is closed, and no lambda inside one binds a parameter on which a leaf stands. -/
structure Spec.Isolated (s : Spec) (n : Nat) : Prop where
  closed : ∀ l ∈ s.lambdas, l.Closed
  apart : ∀ l ∈ s.lambdas, ∀ b ∈ l.body.binders, b ∉ s.outerParams n

namespace Expr

/-- What member accesses do not change, dotted paths do not change. -/
lemma path_eq {α : Type} (g : Expr → α) (hg : ∀ e name, g (member e name) = g e) (e : Expr)
    (dotted : String) : g (path e dotted) = g e := by
  have hfold : ∀ (names : List String) (e : Expr), g (names.foldl member e) = g e := by
    intro names
    induction names with
    | nil => intro e; rfl
    | cons name names ih => intro e; rw [List.foldl_cons, ih, hg]
  exact hfold (Text.dotted dotted) e

variable (p : Param) (dotted : String)

@[simp] lemma isProper_path : (path (param p) dotted).isProper = true :=
  path_eq isProper (fun _ _ => rfl) (param p) dotted

@[simp] lemma binders_path : (path (param p) dotted).binders = [] :=
  path_eq binders (fun _ _ => rfl) (param p) dotted

@[simp] lemma check_path : check [p] (path (param p) dotted) = .ok () := by
  rw [path_eq (check [p]) (fun _ _ => rfl) (param p) dotted, check, if_pos]
  rw [List.contains_iff_mem]
  exact List.mem_singleton_self p

end Expr

namespace Spec

variable {field : Value} {n n' : Nat} {s : Spec}

/-- A leaf on a named field has a parameter of its own. -/
lemma onField_run {name : String} (named : name ≠ "") (build : Expr → Expr) (n : Nat) :
    (onField (.str name) build).run n = .ok (tree ⟨.param ⟨n, Param.defaultName⟩,
      build (.path (.param ⟨n, Param.defaultName⟩) name)⟩, n + 1) := by
  have hname : fieldName (.str name) = .ok name := if_neg (by simpa using named)
  rw [onField, hname]
  rfl

/-- A leaf on one field is closed and holds no lambda, as long as what is built around the accessed
field adds neither references nor lambdas. -/
lemma onField_closed {build : Expr → Expr} (h : (onField field build).run n = .ok (s, n'))
    (proper : ∀ e, e.isProper = true → (build e).isProper = true)
    (keeps : ∀ scope e, Expr.check scope e = .ok () → Expr.check scope (build e) = .ok ())
    (plain : ∀ e, e.binders = [] → (build e).binders = []) :
    ∃ l, s = tree l ∧ l.Closed ∧ l.body.binders = [] := by
  cases hname : fieldName field with
  | error e => rw [onField, hname] at h; cases h
  | ok name =>
      rw [onField, hname] at h
      cases h
      have hproper := proper _ (Expr.isProper_path ⟨n, Param.defaultName⟩ name)
      have hcheck := keeps _ _ (Expr.check_path ⟨n, Param.defaultName⟩ name)
      refine ⟨_, rfl, ⟨hproper, (Expr.freeParams_eq_nil_iff hproper).mpr hcheck⟩, ?_⟩
      exact plain _ (Expr.binders_path ⟨n, Param.defaultName⟩ name)

/-- A comparison of a field is closed and holds no lambda. -/
theorem compareField_closed {op : CompareOp} {constant : Datum}
    (h : (compareField op field constant).run n = .ok (s, n')) :
    ∃ l, s = tree l ∧ l.Closed ∧ l.body.binders = [] := by
  refine onField_closed h (fun e he => ?_) (fun scope e he => ?_) (fun e he => ?_)
  · rw [Expr.isProper, he]
    rfl
  · exact Expr.check_pair.mpr ⟨he, rfl⟩
  · rw [Expr.binders, he]
    rfl

end Spec

end Criteria
