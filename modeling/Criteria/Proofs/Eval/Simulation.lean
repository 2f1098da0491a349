import Criteria.Proofs.Eval.Similar

/-!
# Alpha-equivalent trees evaluate alike

Evaluation is a simulation: in frames that pair their parameters, alpha-equivalent trees do the same
things in the same order and end in similar items or in one fault.  Functions that the trees call are
scripts, so they cannot tell the two sides apart.

* **`eval_sim`** — one tree, by induction on it, whatever applies functions.
* `apply_sim` — applications up to any depth, by induction on the depth.
* **`call_sim`** — compiled lambdas with alpha-equivalent trees are one and the same to their callers.
-/

namespace Criteria

namespace Expr

variable {m : Evaluator} {apply apply' : Item → Item → Run Item}

mutual

/-- **Alpha-equivalent trees evaluate alike.** -/
theorem eval_sim
    (happly : ∀ f f' x x', Item.Sim f f' → Item.Sim x x' →
      Run.Sim Item.Sim (apply f x) (apply' f' x'))
    {Γ : Pairing} {fr fr' : Frame} (hfr : Frame.Sim Γ fr fr') :
    ∀ {e e' : Expr}, AlphaEq Γ e e' →
      Run.Sim Item.Sim (e.eval m apply fr) (e'.eval m apply' fr')
  | param p, _, h => by
      cases h with
      | @param _ _ q together =>
          rw [eval, eval]
          obtain ⟨i, i', hi, hi', hsim⟩ | ⟨hp, hq, rfl⟩ := hfr.lookup together
          · rw [hi, hi']
            exact .pure hsim
          · rw [hp, hq]
            exact .throw _
  | const _, _, h => by
      cases h
      exact .pure .datum
  | member target name, _, h => by
      cases h with
      | member h => exact Item.Sim.similarity.congruence.member name (eval_sim happly hfr h)
  | call f args label, _, h => by
      cases h with
      | call h =>
          exact eval_call_related f label (evalAll_sim happly hfr h)
            (Host.run_sim Item.Sim.similarity m.host happly)
  | compare op l r, _, h => by
      cases h with
      | compare hl hr =>
          exact Item.Sim.similarity.congruence.compare op (eval_sim happly hfr hl)
            (eval_sim happly hfr hr)
  | and l r, _, h => by
      cases h with
      | and hl hr =>
          exact Item.Sim.similarity.congruence.and (eval_sim happly hfr hl) (eval_sim happly hfr hr)
  | or l r, _, h => by
      cases h with
      | or hl hr =>
          exact Item.Sim.similarity.congruence.or (eval_sim happly hfr hl) (eval_sim happly hfr hr)
  | not e, _, h => by
      cases h with
      | not h => exact Item.Sim.similarity.congruence.not (eval_sim happly hfr h)
  | cond test yes no, _, h => by
      cases h with
      | cond ht hy hn =>
          exact Item.Sim.similarity.congruence.cond (eval_sim happly hfr ht)
            (eval_sim happly hfr hy) (eval_sim happly hfr hn)
  | lambda binder body, e', h => by
      have made : ∃ binder' body', e' = lambda binder' body' := by
        cases h with
        | lambda h => exact ⟨_, _, rfl⟩
        | improper hb h => exact ⟨_, _, rfl⟩
      obtain ⟨binder', body', rfl⟩ := made
      rw [eval, eval]
      refine .bind .allocate fun n n' hn => ?_
      rw [hn]
      exact .pure (.closure h hfr)
  | tagged .., _, h | unknown _, _, h | raw _, _, h => by
      cases h
      rw [eval, eval]
      exact .throw _

theorem evalAll_sim
    (happly : ∀ f f' x x', Item.Sim f f' → Item.Sim x x' →
      Run.Sim Item.Sim (apply f x) (apply' f' x'))
    {Γ : Pairing} {fr fr' : Frame} (hfr : Frame.Sim Γ fr fr') :
    ∀ {es es' : List Expr}, AlphaEqAll Γ es es' →
      Run.Sim (List.Forall₂ Item.Sim) (evalAll m apply fr es) (evalAll m apply' fr' es')
  | [], _, h => by
      cases h
      exact .pure .nil
  | e :: es, _, h => by
      cases h with
      | cons he hes =>
          exact evalAll_cons_related (eval_sim happly hfr he) (evalAll_sim happly hfr hes)

end

end Expr

namespace Evaluator

variable {m : Evaluator} {apply apply' : Item → Item → Run Item}

/-- Entering alpha-equivalent lambdas with similar arguments. -/
lemma enter_sim
    (happly : ∀ f f' x x', Item.Sim f f' → Item.Sim x x' →
      Run.Sim Item.Sim (apply f x) (apply' f' x'))
    {Γ : Pairing} {b b' e e' : Expr} {fr fr' : Frame} {x x' : Item}
    (h : Expr.AlphaEq Γ (.lambda b e) (.lambda b' e')) (hfr : Frame.Sim Γ fr fr') (hx : Item.Sim x x') :
    Run.Sim Item.Sim (m.enter apply b e fr x) (m.enter apply' b' e' fr' x') := by
  unfold enter
  cases h with
  | lambda h =>
      refine .bind (.pure (R := Eq) rfl) fun _ _ _ => ?_
      exact Expr.eval_sim happly (.cons hx hfr) h
  | improper hb h =>
      refine .bind (.ofExcept (Outcome.Sim.refl (R := Eq) (fun _ => rfl) _)) fun _ _ _ => ?_
      simp only [bind, hb]
      exact Expr.eval_sim happly hfr h

/-- Similar functions do similar things to similar arguments, at any depth. -/
theorem apply_sim (m : Evaluator) : ∀ (depth : Nat) (f f' x x' : Item), Item.Sim f f' →
    Item.Sim x x' → Run.Sim Item.Sim (m.apply depth f x) (m.apply depth f' x') := by
  intro depth
  induction depth with
  | zero =>
      intro f f' x x' hf _
      cases hf <;> exact .throw _
  | succ depth ih =>
      intro f f' x x' hf hx
      cases hf with
      | datum => exact .throw _
      | closure h hfr => exact enter_sim ih h hfr hx

end Evaluator

namespace Compiled

/-- **Callers cannot tell alpha-equivalent lambdas apart.** -/
theorem call_sim {props : EvaluationProperties} {b b' e e' : Expr}
    (h : Expr.AlphaEq [] (.lambda b e) (.lambda b' e')) (host : Host) (entity : Item) :
    Run.Sim Item.Sim (call ⟨props, b, e⟩ host entity) (call ⟨props, b', e'⟩ host entity) :=
  Evaluator.enter_sim (Evaluator.apply_sim _ depthLimit) h .nil (Item.Sim.refl entity)

end Compiled

end Criteria
