import Criteria.Proofs.Scope.Walk
import Criteria.Proofs.Spec.Composition

/-!
# Composed conditions are closed

Whatever parameters the leaves of a specification share, the lambda that the specification stands for
has one parameter and no free ones.

* `Spec.leading` — the parameter of the leftmost leaf.
* `rebound_closed`, `merge_closed` — re-expressing and merging keep lambdas closed, wherever the two
  parameters are bound inside.
* `toLambda_closed` — by induction on the specification, its lambda is closed and stands on the
  parameter of the leftmost leaf.
* **`compose_closed`** — so it compiles, and without nested lambdas the walk through it meets no other
  parameter.
* **`satisfied_negated`** — and a complement is satisfied exactly where the specification is not.
-/

namespace Criteria

open Criteria.Expr (check rebound)

namespace Lambda

lemma closed_of_check {p : Param} {body : Expr} (proper : body.isProper = true)
    (closed : check [p] body = .ok ()) : Closed ⟨.param p, body⟩ :=
  ⟨proper, (Expr.freeParams_eq_nil_iff proper).mpr closed⟩

/-- A closed lambda compiles. -/
lemma Closed.compile {l : Lambda} (h : l.Closed) (props : EvaluationProperties) :
    l.toExpr.compile props = .ok ⟨props, l.binder, l.body⟩ := by
  obtain ⟨binder, body⟩ := l
  obtain ⟨p, rfl, -, hcheck⟩ := h.param
  exact compile_of_check hcheck props

lemma Closed.negate {l : Lambda} (h : l.Closed) : l.negate.Closed := by
  obtain ⟨binder, body⟩ := l
  obtain ⟨p, rfl, hproper, hcheck⟩ := h.param
  have hnot : (Expr.not body).isProper = true := hproper
  exact closed_of_check hnot hcheck

/-- A closed lambda over a new parameter is closed, even if the new one is bound inside. -/
lemma rebound_closed {p : Param} {body : Expr} (h : Closed ⟨.param p, body⟩) (t : Param) :
    Closed ⟨.param t, rebound p t body⟩ := by
  obtain ⟨_, ⟨rfl⟩, hproper, hcheck⟩ := h.param
  exact closed_of_check (Expr.isProper_rebound t hproper) (Expr.check_rebound t hproper hcheck)

/-- Two closed conditions over one parameter are closed together. -/
lemma Closed.connect (c : Combination) {p : Param} {a b : Expr} (ha : Closed ⟨.param p, a⟩)
    (hb : Closed ⟨.param p, b⟩) : Closed ⟨.param p, c.connective a b⟩ := by
  obtain ⟨_, ⟨rfl⟩, haProper, haCheck⟩ := ha.param
  obtain ⟨_, ⟨rfl⟩, hbProper, hbCheck⟩ := hb.param
  have hproper : (a.isProper && b.isProper) = true := by rw [haProper, hbProper, Bool.and_self]
  have hcheck := Expr.check_pair.mpr ⟨haCheck, hbCheck⟩
  cases c <;> exact closed_of_check hproper hcheck

lemma binders_connective (c : Combination) (a b : Expr) :
    (c.connective a b).binders = a.binders ++ b.binders := by
  cases c <;> rfl

/-- **Merging closed lambdas.**  The result is closed and stands on the parameter of the left one.  It
holds a lambda inside only if one of the two does. -/
lemma merge_closed (c : Combination) {l r : Lambda} (hl : l.Closed) (hr : r.Closed) :
    ∃ m, merge c.connective l r = .ok m ∧ m.binder = l.binder ∧ m.Closed ∧
      (l.body.binders = [] → r.body.binders = [] → m.body.binders = []) := by
  obtain ⟨binder, a⟩ := l
  obtain ⟨binder', b⟩ := r
  obtain ⟨p, rfl, -⟩ := hl.param
  obtain ⟨q, rfl, hproper, -⟩ := hr.param
  refine ⟨_, merge_eq_connective c a hproper, rfl, hl.connect c (rebound_closed hr p), ?_⟩
  intro ha hb
  show (c.connective a (rebound q p b)).binders = []
  rw [binders_connective, Expr.binders_rebound p hproper, hb, ha]
  rfl

/-- The lambda as a combination joins it: negated if the combination is a negative one. -/
def operand (c : Combination) (l : Lambda) : Lambda := if c.negates then l.negate else l

lemma operand_of_negates {c : Combination} (h : c.negates = true) (l : Lambda) :
    l.operand c = l.negate := if_pos h

lemma operand_of_not_negates {c : Combination} (h : c.negates = false) (l : Lambda) :
    l.operand c = l := if_neg (by rw [h]; exact Bool.false_ne_true)

lemma binder_operand (c : Combination) (l : Lambda) : (l.operand c).binder = l.binder := by
  cases c <;> rfl

lemma binders_operand (c : Combination) (l : Lambda) :
    (l.operand c).body.binders = l.body.binders := by
  cases c <;> rfl

lemma Closed.operand {l : Lambda} (h : l.Closed) (c : Combination) : (l.operand c).Closed := by
  cases c with
  | and | or => exact h
  | nand | nor => exact h.negate

/-- Without lambdas inside, a closed lambda refers to its own parameter only. -/
lemma Closed.walk_eq {l : Lambda} (h : l.Closed) (plain : l.body.binders = []) :
    ∃ nodes, l.toExpr.walk = .ok nodes ∧ ∀ q, .param q ∈ nodes → .param q = l.binder := by
  obtain ⟨binder, body⟩ := l
  obtain ⟨p, rfl, hproper, hcheck⟩ := h.param
  refine ⟨_, (Expr.walk_eq_preorder _).trans (Expr.preorder_eq_scopedWalk [] _ h.1), ?_⟩
  intro q hq
  obtain ⟨⟨scope, e⟩, hvisited, rfl⟩ := List.mem_map.mp hq
  obtain heq | heq | hinside :
      (scope, Expr.param q) = ([], toExpr ⟨.param p, body⟩) ∨ (scope, Expr.param q) = ([p], .param p) ∨
        (scope, Expr.param q) ∈ Expr.scopedWalk [p] body := by
    simpa [toExpr, Expr.scopedWalk, Expr.asParam?] using hvisited
  · cases heq
  · cases heq
    rfl
  · obtain rfl : scope = [p] := Expr.scope_eq_of_binders_nil [p] body hproper plain _ hinside
    have hmem : q ∈ [p] := Expr.mem_scope_of_check hproper hcheck hinside
    rw [List.mem_singleton.mp hmem]

end Lambda

namespace Spec

/-- The parameter of the leftmost leaf if new parameters are numbered from `n` on. -/
def leading (n : Nat) : Spec → Expr
  | everything => .param .universal
  | tree l => l.binder
  | predicate _ _ p => .param p
  | template .. => .param ⟨n, Param.defaultName⟩
  | combine _ l _ => l.leading n
  | negated s => s.leading n

lemma toLambda_negated {s : Spec} {l : Lambda} {n n' : Nat} (h : s.toLambda.run n = .ok (l, n')) :
    (negated s).toLambda.run n = .ok (l.negate, n') := by
  rw [toLambda, Build.run_bind_ok h]
  rfl

/-- A combination merges the lambdas of its operands. -/
lemma toLambda_combine {c : Combination} {l r : Spec} {left right m : Lambda} {n n' n'' : Nat}
    (hl : l.toLambda.run n = .ok (left, n')) (hr : r.toLambda.run n' = .ok (right, n''))
    (hm : Lambda.merge c.connective (left.operand c) (right.operand c) = .ok m) :
    (combine c l r).toLambda.run n = .ok (m, n'') := by
  rw [toLambda, Build.run_bind_ok hl, Build.run_bind_ok hr]
  cases c <;> exact Build.run_lift_ok hm

/-- **The lambda of a specification is closed**, and no combination brings in a nested lambda. -/
theorem toLambda_closed : ∀ (s : Spec) (n : Nat), (∀ l ∈ s.lambdas, l.Closed) →
    ∃ l, s.toLambda.run n = .ok (l, n + s.copies) ∧ l.binder = s.leading n ∧ l.Closed ∧
      ((∀ leaf ∈ s.lambdas, leaf.body.binders = []) → l.body.binders = [])
  | everything, n, h | predicate .., n, h | tree _, n, h =>
      ⟨_, rfl, rfl, h _ (List.mem_singleton_self _), fun plain => plain _ (List.mem_singleton_self _)⟩
  | template p body, n, h => by
      have hown : Lambda.Closed ⟨.param p, body⟩ := h _ (List.mem_singleton_self _)
      obtain ⟨_, ⟨rfl⟩, hproper, -⟩ := hown.param
      refine ⟨_, toLambda_template hproper n, rfl, Lambda.rebound_closed hown _, fun plain => ?_⟩
      have hplain : body.binders = [] := plain _ (List.mem_singleton_self _)
      show (rebound p _ body).binders = []
      rw [Expr.binders_rebound _ hproper, hplain]
      rfl
  | combine c l r, n, h => by
      obtain ⟨hl, hr⟩ := List.forall_mem_append.mp h
      obtain ⟨left, hleft, hleading, hleftClosed, hleftPlain⟩ := toLambda_closed l n hl
      obtain ⟨right, hright, -, hrightClosed, hrightPlain⟩ :=
        toLambda_closed r (n + l.copies) hr
      obtain ⟨m, hmerge, hbinder, hclosed, hplain⟩ :=
        Lambda.merge_closed c (hleftClosed.operand c) (hrightClosed.operand c)
      rw [Lambda.binder_operand] at hbinder
      rw [Lambda.binders_operand, Lambda.binders_operand] at hplain
      refine ⟨m, ?_, hbinder.trans hleading, hclosed, fun plain => ?_⟩
      · rw [copies, ← Nat.add_assoc]
        exact toLambda_combine hleft hright hmerge
      · obtain ⟨plainLeft, plainRight⟩ := List.forall_mem_append.mp plain
        exact hplain (hleftPlain plainLeft) (hrightPlain plainRight)
  | negated s, n, h => by
      obtain ⟨l, hrun, hleading, hclosed, hplain⟩ := toLambda_closed s n h
      exact ⟨l.negate, toLambda_negated hrun, hleading, hclosed.negate, hplain⟩

/-- **Composed conditions are closed.**  A specification of closed leaves stands for a lambda over the
parameter of its leftmost leaf.  It has no free parameters and compiles, and without nested lambdas in
the leaves the walk through it meets no other parameter. -/
theorem compose_closed (s : Spec) (n : Nat) (closed : ∀ l ∈ s.lambdas, l.Closed) :
    ∃ l, s.toLambda.run n = .ok (l, n + s.copies) ∧ l.binder = s.leading n ∧
      (∃ p, l.binder = .param p) ∧ Expr.freeParams l.binder l.body = .ok [] ∧
      (∀ props, l.toExpr.compile props = .ok ⟨props, l.binder, l.body⟩) ∧
      ((∀ leaf ∈ s.lambdas, leaf.body.binders = []) →
        ∃ nodes, l.toExpr.walk = .ok nodes ∧ ∀ q, .param q ∈ nodes → .param q = l.binder) := by
  obtain ⟨l, hrun, hleading, hclosed, hplain⟩ := toLambda_closed s n closed
  obtain ⟨p, hp, -⟩ := hclosed.param
  refine ⟨l, hrun, hleading, ⟨p, hp⟩, hclosed.2, hclosed.compile, fun plain => ?_⟩
  exact hclosed.walk_eq (hplain plain)

/-- Two leaves that share both parameters: each one's parameter is bound inside the other. -/
def crossed (p t : Param) : Spec :=
  combine .nand (negated (tree ⟨.param p, Expr.echoing p t⟩))
    (combine .or (template t (Expr.echoing t p)) (tree ⟨.param t, .param t⟩))

/-- Crossed binders do no harm, and in plain leaves the parameter of the right one disappears. -/
theorem compose_closed_crossed :
    (∀ l ∈ (crossed ⟨1, "p"⟩ ⟨2, "t"⟩).lambdas, l.Closed) ∧
    (∃ l, (crossed ⟨1, "p"⟩ ⟨2, "t"⟩).toLambda.run 3 = .ok (l, 4) ∧ l.binder = .param ⟨1, "p"⟩ ∧
      Expr.freeParams l.binder l.body = .ok []) ∧
    ∃ l nodes, (combine .nor (tree ⟨.param ⟨2, "t"⟩, .param ⟨2, "t"⟩⟩)
        (tree ⟨.param ⟨1, "p"⟩, .param ⟨1, "p"⟩⟩)).toLambda.run 3 = .ok (l, 3) ∧
      l.toExpr.walk = .ok nodes ∧ ∀ q, .param q ∈ nodes → Expr.param q = .param ⟨2, "t"⟩ := by
  have closed : ∀ l ∈ (crossed ⟨1, "p"⟩ ⟨2, "t"⟩).lambdas, l.Closed := by
    show ∀ l ∈ [_, _, _], Lambda.Closed l
    simp only [List.forall_mem_cons]
    exact ⟨⟨rfl, rfl⟩, ⟨rfl, rfl⟩, ⟨rfl, rfl⟩, fun _ h => nomatch h⟩
  refine ⟨closed, ?_, ?_⟩
  · obtain ⟨l, hrun, hbinder, -, hfree, -⟩ := compose_closed (crossed ⟨1, "p"⟩ ⟨2, "t"⟩) 3 closed
    exact ⟨l, hrun, hbinder, hfree⟩
  · have plain : ∀ l ∈ (combine .nor (tree ⟨.param ⟨2, "t"⟩, .param ⟨2, "t"⟩⟩)
        (tree ⟨.param ⟨1, "p"⟩, .param ⟨1, "p"⟩⟩)).lambdas, l.Closed ∧ l.body.binders = [] := by
      show ∀ l ∈ [_, _], Lambda.Closed l ∧ l.body.binders = []
      simp only [List.forall_mem_cons]
      exact ⟨⟨⟨rfl, rfl⟩, rfl⟩, ⟨⟨rfl, rfl⟩, rfl⟩, fun _ h => nomatch h⟩
    obtain ⟨l, hrun, hbinder, -, -, -, hwalk⟩ := compose_closed _ 3 fun l hl => (plain l hl).1
    obtain ⟨nodes, hnodes, honly⟩ := hwalk fun l hl => (plain l hl).2
    exact ⟨l, nodes, hrun, hnodes, fun q hq => (honly q hq).trans hbinder⟩

/-! ## Complements -/

/-- To decide a specification is to compile it and to test the entity. -/
lemma satisfied_eq_test {s : Spec} {c : CompiledSpec} {w : World} {next : Nat}
    (hcompile : (s.compile .default).run w.next = .ok (c, next)) (host : Host) (entity : Item) :
    satisfied host s entity w =
      ((c.test host entity).run { w with next }).map (Except.mapError .fault) id := by
  rw [satisfied, hcompile, CompiledSpec.test, Run.run_bind]
  generalize hcall : c.predicate.call host entity = call
  simp only [hcall]
  obtain ⟨_ | i, w'⟩ := call.run { w with next }
  · rfl
  · rfl

/-- To decide a specification is to ask its lambda. -/
lemma satisfied_eq_holds {s : Spec} {l : Lambda} {w : World} {next : Nat}
    (hrun : s.toLambda.run w.next = .ok (l, next)) (closed : l.Closed) (host : Host) (entity : Item) :
    satisfied host s entity w =
      ((l.holds .default host entity).run { w with next }).map (Except.mapError .fault) id := by
  have hcompile : (s.compile .default).run w.next =
      .ok (⟨s, .default, l.binder, l.body⟩, next) := by
    rw [compile, Build.run_bind_ok hrun, Build.run_bind_ok (Build.run_lift_ok (closed.compile _))]
    rfl
  exact satisfied_eq_test hcompile host entity

/-- **The complement is satisfied where the specification is not**, and fails where that fails. -/
theorem satisfied_negated {s : Spec} (closed : ∀ l ∈ s.lambdas, l.Closed) (host : Host)
    (entity : Item) :
    satisfied host (negated s) entity = (do return !(← satisfied host s entity)) := by
  funext w
  obtain ⟨l, hrun, -, hclosed, -⟩ := toLambda_closed s w.next closed
  have hrun' := toLambda_negated hrun
  have hholds : l.negate.holds .default host entity =
      (do return !(← l.holds .default host entity)) := by
    obtain ⟨binder, body⟩ := l
    obtain ⟨p, rfl, -⟩ := hclosed.param
    exact Lambda.holds_not
  have hbind := Run.run_bind (satisfied host s entity) (fun b => pure !b) w
  rw [ExceptT.run, ExceptT.run, satisfied_eq_holds hrun hclosed] at hbind
  rw [satisfied_eq_holds hrun' hclosed.negate, hholds, Run.run_bind]
  refine Eq.trans ?_ hbind.symm
  obtain ⟨_ | b, w'⟩ := (l.holds .default host entity).run { w with next := w.next + s.copies }
  · rfl
  · rfl

end Spec

end Criteria
