import Criteria.Eval.Basic
import Criteria.Proofs.Eval.Related
import Mathlib.Data.List.Forall2

/-!
# Evaluation respects relations

Two evaluations are compared under a relation between items, and in worlds related in any way.  For
every kind of node there is one rule: if its parts evaluate alike, so does the node.  Which trees and
which frames belong together is left to each comparison.

* **`Item.Congruence`** — the relations that the steps of evaluation respect, with a rule for each kind
  of node that has operands.
* `eval_call_related` — the rule for calls, which asks what the called functions do.
-/

namespace Criteria

/-- A relation that the steps of evaluation respect.  What exists once is related to itself; related
items count as true alike, compare alike, and have related members. -/
structure Item.Congruence (R : Item → Item → Prop) : Prop where
  constant : ∀ v : Value, R (.datum ⟨v, ⟨0, []⟩⟩) (.datum ⟨v, ⟨0, []⟩⟩)
  truthy : ∀ {a a' : Item}, R a a' → a.truthy = a'.truthy
  holds : ∀ (op : CompareOp) {a a' b b' : Item}, R a a' → R b b' → op.holds a b = op.holds a' b'
  read : ∀ (props : EvaluationProperties) (name : String) {a a' : Item}, R a a' →
    Outcome.Sim R (props.read name a) (props.read name a')

namespace Item.Congruence

open Criteria.Expr

variable {W : World → World → Prop} {R : Item → Item → Prop} {m : Evaluator}
  {apply apply' : Item → Item → Run Item} {fr fr' : Frame} {e e' l l' r r' t t' y y' n n' : Expr}
  {es es' : List Expr}

lemma member (hR : Congruence R) (name : String)
    (h : Run.Related W R (e.eval m apply fr) (e'.eval m apply' fr')) :
    Run.Related W R ((Expr.member e name).eval m apply fr)
      ((Expr.member e' name).eval m apply' fr') := by
  rw [eval, eval]
  exact h.bind fun _ _ hi => .ofExcept (hR.read _ name hi)

lemma compare (hR : Congruence R) (op : CompareOp)
    (hl : Run.Related W R (l.eval m apply fr) (l'.eval m apply' fr'))
    (hr : Run.Related W R (r.eval m apply fr) (r'.eval m apply' fr')) :
    Run.Related W R ((Expr.compare op l r).eval m apply fr)
      ((Expr.compare op l' r').eval m apply' fr') := by
  rw [eval, eval]
  refine hl.bind fun a a' ha => hr.bind fun b b' hb => ?_
  rw [hR.holds op ha hb]
  refine .bind (.ofExcept (Outcome.Sim.refl (R := Eq) (fun _ => rfl) _)) fun s t hst => ?_
  rw [hst]
  exact .pure (hR.constant _)

lemma and (hR : Congruence R) (hl : Run.Related W R (l.eval m apply fr) (l'.eval m apply' fr'))
    (hr : Run.Related W R (r.eval m apply fr) (r'.eval m apply' fr')) :
    Run.Related W R ((Expr.and l r).eval m apply fr) ((Expr.and l' r').eval m apply' fr') := by
  rw [eval, eval]
  refine hl.bind fun a a' ha => ?_
  rw [hR.truthy ha]
  split
  · exact hr
  · exact .pure ha

lemma or (hR : Congruence R) (hl : Run.Related W R (l.eval m apply fr) (l'.eval m apply' fr'))
    (hr : Run.Related W R (r.eval m apply fr) (r'.eval m apply' fr')) :
    Run.Related W R ((Expr.or l r).eval m apply fr) ((Expr.or l' r').eval m apply' fr') := by
  rw [eval, eval]
  refine hl.bind fun a a' ha => ?_
  rw [hR.truthy ha]
  split
  · exact .pure ha
  · exact hr

lemma not (hR : Congruence R) (h : Run.Related W R (e.eval m apply fr) (e'.eval m apply' fr')) :
    Run.Related W R ((Expr.not e).eval m apply fr) ((Expr.not e').eval m apply' fr') := by
  rw [eval, eval]
  refine h.bind fun a a' ha => ?_
  rw [hR.truthy ha]
  exact .pure (hR.constant _)

lemma cond (hR : Congruence R) (ht : Run.Related W R (t.eval m apply fr) (t'.eval m apply' fr'))
    (hy : Run.Related W R (y.eval m apply fr) (y'.eval m apply' fr'))
    (hn : Run.Related W R (n.eval m apply fr) (n'.eval m apply' fr')) :
    Run.Related W R ((Expr.cond t y n).eval m apply fr)
      ((Expr.cond t' y' n').eval m apply' fr') := by
  rw [eval, eval]
  refine ht.bind fun a a' ha => ?_
  rw [hR.truthy ha]
  split
  · exact hy
  · exact hn

end Item.Congruence

namespace Expr

variable {W : World → World → Prop} {R : Item → Item → Prop} {m : Evaluator}
  {apply apply' : Item → Item → Run Item} {fr fr' : Frame}

lemma evalAll_cons_related {e e' : Expr} {es es' : List Expr}
    (he : Run.Related W R (e.eval m apply fr) (e'.eval m apply' fr'))
    (hes : Run.Related W (List.Forall₂ R) (evalAll m apply fr es) (evalAll m apply' fr' es')) :
    Run.Related W (List.Forall₂ R) (evalAll m apply fr (e :: es))
      (evalAll m apply' fr' (e' :: es')) := by
  rw [evalAll, evalAll]
  exact he.bind fun _ _ hi => hes.bind fun _ _ his => .pure (.cons hi his)

/-- A call does what its function does with the arguments. -/
lemma eval_call_related {es es' : List Expr} (f : Callee) (label : Option String)
    (hes : Run.Related W (List.Forall₂ R) (evalAll m apply fr es) (evalAll m apply' fr' es'))
    (hhost : ∀ (key : String) (is is' : List Item), List.Forall₂ R is is' →
      Run.Related W R
        ((m.host key (Script.presentAll [] is).1).run apply (Script.presentAll [] is).2)
        ((m.host key (Script.presentAll [] is').1).run apply' (Script.presentAll [] is').2)) :
    Run.Related W R ((call f es label).eval m apply fr) ((call f es' label).eval m apply' fr') := by
  rw [eval, eval]
  refine hes.bind fun is is' his => ?_
  cases f with
  | value d => exact .throw _
  | function r => exact hhost r.key is is' his

end Expr

end Criteria
