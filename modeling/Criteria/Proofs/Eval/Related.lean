import Criteria.Eval.Run
import Mathlib.Tactic.Lemma

/-!
# Related runs

Two runs are related if they keep a relation between their worlds and end in related results or in
one fault.  The rules for the steps of a run are the same whatever the two relations are.

* `Outcome.Sim` — outcomes with related results, or with one fault.
* **`Run.Related`** — related runs, with a rule for each way to build a run.
-/

namespace Criteria

/-- Outcomes with related results, or with one fault. -/
inductive Outcome.Sim {α β : Type} (R : α → β → Prop) : Except Fault α → Except Fault β → Prop where
  | ok {a : α} {b : β} : R a b → Outcome.Sim R (.ok a) (.ok b)
  | error (f : Fault) : Outcome.Sim R (.error f) (.error f)

namespace Outcome.Sim

variable {α β : Type}

lemma eq {r r' : Except Fault α} (h : Outcome.Sim Eq r r') : r = r' := by
  cases h with
  | ok h => rw [h]
  | error => rfl

lemma refl {R : α → α → Prop} (hR : ∀ a, R a a) : ∀ r : Except Fault α, Outcome.Sim R r r
  | .ok a => .ok (hR a)
  | .error f => .error f

end Outcome.Sim

/-- Two steps run one after the other; an error in the first one ends the run. -/
lemma Run.run_bind {ε α β : Type} (m : ExceptT ε (StateM World) α)
    (k : α → ExceptT ε (StateM World) β) (w : World) :
    (m >>= k).run w = match m.run w with
      | (.ok a, w) => (k a).run w
      | (.error f, w) => (.error f, w) := by
  show (ExceptT.bindCont k =<< m) w = _
  simp only [Bind.bindLeft, Bind.bind, StateT.bind, ExceptT.run]
  cases m w with
  | mk r w => cases r <;> rfl

/-- Runs that keep their worlds related by `W` and have results that are related by `R`. -/
def Run.Related {α β : Type} (W : World → World → Prop) (R : α → β → Prop) (m : Run α)
    (m' : Run β) : Prop :=
  ∀ w w' : World, W w w' → Outcome.Sim R (m.run w).1 (m'.run w').1 ∧ W (m.run w).2 (m'.run w').2

namespace Run.Related

variable {α β γ δ : Type} {W : World → World → Prop} {R : α → β → Prop} {S : γ → δ → Prop}

lemma pure {a : α} {b : β} (h : R a b) : Run.Related W R (Pure.pure a) (Pure.pure b) :=
  fun _ _ hw => ⟨.ok h, hw⟩

lemma throw (f : Fault) : Run.Related W R (MonadExcept.throw f) (MonadExcept.throw f) :=
  fun _ _ hw => ⟨.error f, hw⟩

/-- Related runs go on as related runs. -/
lemma bind {m : Run α} {m' : Run β} {k : α → Run γ} {k' : β → Run δ} (h : Run.Related W R m m')
    (hk : ∀ a b, R a b → Run.Related W S (k a) (k' b)) :
    Run.Related W S (m >>= k) (m' >>= k') := by
  intro w w' hw
  obtain ⟨hres, hworld⟩ := h w w' hw
  rw [run_bind, run_bind]
  cases hm : m.run w with
  | mk r v =>
      cases hm' : m'.run w' with
      | mk r' v' =>
          rw [hm, hm'] at hres hworld
          cases hres with
          | ok hab => exact hk _ _ hab v v' hworld
          | error f => exact ⟨.error f, hworld⟩

lemma ofExcept {r : Except Fault α} {r' : Except Fault β} (h : Outcome.Sim R r r') :
    Run.Related W R (Run.ofExcept r) (Run.ofExcept r') := by
  cases h with
  | ok h => exact pure h
  | error f => exact throw f

/-- What one run observes, the other one observes likewise. -/
lemma observe {m : Run α} {m' : Run β} (h : Run.Related W R m m') :
    Run.Related W (Outcome.Sim R) m.observe m'.observe := by
  intro w w' hw
  obtain ⟨hres, hworld⟩ := h w w' hw
  exact ⟨.ok hres, hworld⟩

end Run.Related

end Criteria
