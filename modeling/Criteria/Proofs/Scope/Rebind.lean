import Mathlib
import Criteria.Eval.Standard
import Criteria.Proofs.Eval.Simulation
import Criteria.Spec.Basic

/-!
# Re-expressing a lambda over another parameter

`Expr.rebind` replaces the parameter of a lambda by a target, in the whole body and without regard to
the binders there.  On a closed lambda the outcome is always a closed lambda over the target.  Whether
it is the same condition depends on the lambdas inside.

* `Expr.rebound p t body` — the body over `t`, and `check_rebound`, that it is closed.
* `alphaEq_rebound_iff` — the old and the new lambda are alpha-equivalent exactly if redirecting `p` to
  `t` separates the binders of the body.
* **`rebind_closed`** — what `Expr.rebind` does with a closed lambda.
* `rebind_captures` — a reference below a lambda that binds the target is captured by it.
-/

namespace Criteria

namespace Expr

/-- The body of a lambda over `p`, re-expressed over `t`. -/
def rebound (p t : Param) (body : Expr) : Expr := body.mapParams (replacement (param p) t)

@[simp] lemma rebound_self (p : Param) (body : Expr) : rebound p p body = body := by
  have himage : replacement (param p) p = param := by
    funext q
    rw [replacement_eq_redirect, redirect_self]
  rw [rebound, himage, mapParams_param]

section Closed

variable {p : Param} {body : Expr}

lemma isProper_rebound (t : Param) (proper : body.isProper = true) :
    (rebound p t body).isProper = true :=
  isProper_mapParams (replacement_eq_redirect p t) body proper

lemma binders_rebound (t : Param) (proper : body.isProper = true) :
    (rebound p t body).binders = body.binders.map (redirect p t) :=
  binders_mapParams (replacement_eq_redirect p t) body proper

lemma redirect_source (p t : Param) : redirect p t p = t := if_pos rfl

/-- A closed lambda stays closed. -/
lemma check_rebound (t : Param) (proper : body.isProper = true)
    (closed : check [p] body = .ok ()) : check [t] (rebound p t body) = .ok () := by
  have hmap := check_mapParams (replacement_eq_redirect p t) [p] body proper closed
  rw [List.map_singleton, redirect_source] at hmap
  exact hmap

lemma separates_redirect_self (proper : body.isProper = true) (closed : check [p] body = .ok ()) :
    separates (redirect p p) [p] body = true := by
  have inj : Set.univ.InjOn (redirect p p) := by
    intro a _ b _ hab
    rw [redirect_self, redirect_self] at hab
    exact hab
  exact separates_of_injOn inj (fun _ _ => trivial) body proper closed fun _ _ => trivial

/-- Redirecting separates if no lambda inside binds the target. -/
lemma separates_redirect {t : Param} (proper : body.isProper = true)
    (closed : check [p] body = .ok ()) (fresh : t ∉ body.binders) :
    separates (redirect p t) [p] body = true := by
  by_cases h : p = t
  · subst h
    exact separates_redirect_self proper closed
  · refine separates_of_injOn (redirect_injOn p t) ?_ body proper closed ?_
    · intro b hb
      rw [List.mem_singleton.mp hb]
      exact h
    · rintro b hb rfl
      exact fresh hb

/-- **When re-expressing is harmless.** -/
theorem alphaEq_rebound_iff (t : Param) (proper : body.isProper = true)
    (closed : check [p] body = .ok ()) :
    AlphaEq [] (lambda (param p) body) (lambda (param t) (rebound p t body)) ↔
      separates (redirect p t) [p] body = true := by
  have hiff := alphaEq_mapParams_iff (replacement_eq_redirect p t) [p] body proper closed
  rw [List.map_singleton, redirect_source] at hiff
  exact alphaEq_lambda_iff.trans hiff

lemma replace_eq_rebound (p t : Param) (proper : body.isProper = true) :
    ∃ s, replace (param p) t body = .ok s ∧ s.result body = rebound p t body :=
  replace_eq_mapParams p t proper

/-- **Re-expressing a closed lambda over any parameter.**  It succeeds and answers with a lambda over
that parameter which compiles.  The two lambdas are alpha-equivalent exactly if every reference keeps
its binder, and then no caller can tell them apart. -/
theorem rebind_closed (proper : body.isProper = true) (closed : freeParams (param p) body = .ok [])
    (t : Param) (props : EvaluationProperties) :
    ∃ s body', rebind t (lambda (param p) body) = .ok s ∧
      s.result (lambda (param p) body) = lambda (param t) body' ∧
      (lambda (param p) body).compile props = .ok ⟨props, param p, body⟩ ∧
      (lambda (param t) body').compile props = .ok ⟨props, param t, body'⟩ ∧
      (AlphaEq [] (lambda (param p) body) (lambda (param t) body') ↔
        separates (redirect p t) [p] body = true) ∧
      (separates (redirect p t) [p] body = true → ∀ (host : Host) (entity : Item),
        Run.Sim Item.Sim (Compiled.call ⟨props, param p, body⟩ host entity)
          (Compiled.call ⟨props, param t, body'⟩ host entity)) := by
  have hcheck := (freeParams_eq_nil_iff proper).mp closed
  have hiff := alphaEq_rebound_iff t proper hcheck
  have hrebind : ∃ s, rebind t (lambda (param p) body) = .ok s ∧
      s.result (lambda (param p) body) = lambda (param t) (rebound p t body) := by
    by_cases h : p = t
    · subst h
      refine ⟨.kept, if_pos rfl, ?_⟩
      rw [rebound_self]
      rfl
    · obtain ⟨s, hs, hres⟩ := replace_eq_rebound p t proper
      have hbinder : ¬ (param p).asParam? = some t := by simpa [asParam?] using h
      refine ⟨.changed (lambda (param t) (s.result body)), ?_, by rw [hres]; rfl⟩
      rw [rebind, if_neg hbinder, hs]
      rfl
  obtain ⟨s, hs, hres⟩ := hrebind
  refine ⟨s, rebound p t body, hs, hres, ?_, ?_, hiff, ?_⟩
  · simp only [compile, asParam?, Option.toList_some]
    rw [hcheck]
    rfl
  · simp only [compile, asParam?, Option.toList_some]
    rw [check_rebound t proper hcheck]
    rfl
  · exact fun hsep host entity => Compiled.call_sim (hiff.mpr hsep) host entity

end Closed

/-! ## Shared parameters

Two bodies that call the standard function `apply`.  Each holds a lambda over `t`, so neither is out of
the ordinary for a rebinding to `t`; but only in the second one does that lambda refer to `p`.
-/

/-- The function over `t` that answers with its argument, applied to the entity. -/
def echoing (p t : Param) : Expr :=
  call (.function ⟨"apply", "apply", "<function apply at 0x?>"⟩) [lambda (param t) (param t), param p]
    none

/-- The function over `t` that answers with the entity, applied to five. -/
def ignoring (p t : Param) : Expr :=
  call (.function ⟨"apply", "apply", "<function apply at 0x?>"⟩)
    [lambda (param t) (param p), const ⟨.int 5, ⟨0, []⟩⟩] none

/-- A nested lambda over the target does no harm as long as it does not refer to the source. -/
theorem rebind_closed_echoing :
    (echoing ⟨1, "p"⟩ ⟨2, "t"⟩).isProper = true ∧
      freeParams (param ⟨1, "p"⟩) (echoing ⟨1, "p"⟩ ⟨2, "t"⟩) = .ok [] ∧
      ∃ s body', rebind ⟨2, "t"⟩ (lambda (param ⟨1, "p"⟩) (echoing ⟨1, "p"⟩ ⟨2, "t"⟩)) = .ok s ∧
        s.result (lambda (param ⟨1, "p"⟩) (echoing ⟨1, "p"⟩ ⟨2, "t"⟩)) =
          lambda (param ⟨2, "t"⟩) body' ∧
        ∀ (host : Host) (entity : Item), Run.Sim Item.Sim
          (Compiled.call ⟨.default, param ⟨1, "p"⟩, echoing ⟨1, "p"⟩ ⟨2, "t"⟩⟩ host entity)
          (Compiled.call ⟨.default, param ⟨2, "t"⟩, body'⟩ host entity) := by
  have closed : freeParams (param ⟨1, "p"⟩) (echoing ⟨1, "p"⟩ ⟨2, "t"⟩) = .ok [] := rfl
  obtain ⟨s, body', hs, hres, -, -, -, hsim⟩ := rebind_closed rfl closed ⟨2, "t"⟩ .default
  exact ⟨rfl, closed, s, body', hs, hres, hsim rfl⟩

/-- **A capture changes the answer.**  The entity is no longer referred to, and the answer is five. -/
theorem rebind_captures :
    (ignoring ⟨1, "p"⟩ ⟨2, "t"⟩).isProper = true ∧
      freeParams (param ⟨1, "p"⟩) (ignoring ⟨1, "p"⟩ ⟨2, "t"⟩) = .ok [] ∧
      rebind ⟨2, "t"⟩ (lambda (param ⟨1, "p"⟩) (ignoring ⟨1, "p"⟩ ⟨2, "t"⟩)) =
        .ok (.changed (lambda (param ⟨2, "t"⟩) (ignoring ⟨2, "t"⟩ ⟨2, "t"⟩))) ∧
      ((Compiled.call ⟨.default, param ⟨1, "p"⟩, ignoring ⟨1, "p"⟩ ⟨2, "t"⟩⟩ Standard.host
        (.datum ⟨.int 0, ⟨1, []⟩⟩)).run ⟨[], 2⟩).1 = .ok (.datum ⟨.int 0, ⟨1, []⟩⟩) ∧
      ((Compiled.call ⟨.default, param ⟨2, "t"⟩, ignoring ⟨2, "t"⟩ ⟨2, "t"⟩⟩ Standard.host
        (.datum ⟨.int 0, ⟨1, []⟩⟩)).run ⟨[], 2⟩).1 = .ok (.datum ⟨.int 5, ⟨0, []⟩⟩) := by
  refine ⟨rfl, rfl, rfl, ?_, ?_⟩
  · cbv
  · cbv

end Expr

end Criteria
