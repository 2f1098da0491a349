import Criteria.Proofs.Eval.Similar

/-!
# Trees that only look

A tree that calls nothing and makes no function leaves the world as it is.  Its evaluation is a
computation without effects, `Expr.value`.

* `Expr.isQuiet` — the trees in question.
* **`eval_quiet`** — evaluating a quiet tree computes its value and nothing else.
* `call_quiet` — so does calling a compiled lambda with a quiet body.
-/

namespace Criteria

/-- A computation in two steps succeeds if both do. -/
lemma bind_eq_ok {ε α β : Type} {x : Except ε α} {f : α → Except ε β} {b : β} :
    x >>= f = .ok b ↔ ∃ a, x = .ok a ∧ f a = .ok b := by
  cases x with
  | error e => exact ⟨fun h => (nomatch h), fun ⟨_, h, _⟩ => (nomatch h)⟩
  | ok a => exact ⟨fun h => ⟨a, rfl, h⟩, fun ⟨_, rfl, h⟩ => h⟩

/-- A computation in two steps fails if one of them does. -/
lemma bind_eq_error {ε α β : Type} {x : Except ε α} {f : α → Except ε β} {e : ε} :
    x >>= f = .error e ↔ x = .error e ∨ ∃ a, x = .ok a ∧ f a = .error e := by
  cases x with
  | error e' => simp [bind, Except.bind]
  | ok a => simp [bind, Except.bind]

/-- What a computation fails with. -/
def failure {ε α : Type} : Except ε α → Option ε
  | .ok _ => none
  | .error e => some e

section Failure

variable {ε α β γ δ : Type}

lemma failure_eq_some_iff {x : Except ε α} {e : ε} : failure x = some e ↔ x = .error e := by
  cases x <;> simp [failure]

lemma failure_eq_none_iff {x : Except ε α} : failure x = none ↔ ∃ a, x = .ok a := by
  cases x <;> simp [failure]

lemma failure_one (a : Except ε α) (f : α → β) :
    failure (do let x ← a; return f x) = failure a := by
  cases a <;> rfl

/-- Of two parts that fail the first one is reported. -/
lemma failure_two (a : Except ε α) (b : Except ε β) (f : α → β → γ) :
    failure (do let x ← a; let y ← b; return f x y) = (failure a).or (failure b) := by
  cases a <;> cases b <;> rfl

lemma failure_three (a : Except ε α) (b : Except ε β) (c : Except ε γ) (f : α → β → γ → δ) :
    failure (do let x ← a; let y ← b; let z ← c; return f x y z) =
      (failure a).or ((failure b).or (failure c)) := by
  cases a <;> cases b <;> cases c <;> rfl

end Failure

namespace Run

variable {α β : Type}

@[simp] lemma run_ofExcept (r : Except Fault α) (w : World) : (ofExcept r).run w = (r, w) := by
  cases r <;> rfl

lemma ofExcept_bind (r : Except Fault α) (f : α → Except Fault β) :
    ofExcept (r >>= f) = ofExcept r >>= fun a => ofExcept (f a) := by
  cases r <;> rfl

end Run

namespace Expr

/-- Whether evaluating the tree calls nothing and makes no function. -/
def isQuiet : Expr → Bool
  | param _ | const _ | tagged .. | unknown _ | raw _ => true
  | call .. | lambda .. => false
  | member target _ => target.isQuiet
  | compare _ l r | and l r | or l r => l.isQuiet && r.isQuiet
  | not e => e.isQuiet
  | cond test yes no => test.isQuiet && (yes.isQuiet && no.isQuiet)

/-- The value of a quiet tree.  What is not quiet has none. -/
def value (props : EvaluationProperties) (frame : Frame) : Expr → Except Fault Item
  | param p =>
    match frame.lookup p with
    | some i => .ok i
    | none => .error (.unboundVariable p.name.shown)
  | const d => .ok (.datum d)
  | member target name => do
    let i ← value props frame target
    props.read name i
  | compare op l r => do
    let a ← value props frame l
    let b ← value props frame r
    let holds ← op.holds a b
    return .ofBool holds
  | and l r => do
    let a ← value props frame l
    if a.truthy then value props frame r else return a
  | or l r => do
    let a ← value props frame l
    if a.truthy then return a else value props frame r
  | not e => do
    let a ← value props frame e
    return .ofBool !a.truthy
  | cond test yes no => do
    let a ← value props frame test
    if a.truthy then value props frame yes else value props frame no
  | call .. | lambda .. | tagged .. | unknown _ | raw _ => .error .foreignNode

/-- **A quiet tree only looks.** -/
theorem eval_quiet {m : Evaluator} {apply : Item → Item → Run Item} {frame : Frame} :
    ∀ e : Expr, e.isQuiet = true →
      e.eval m apply frame = Run.ofExcept (e.value m.properties frame)
  | param p, _ => by
      rw [eval, value]
      cases frame.lookup p <;> rfl
  | const _, _ => rfl
  | member target name, h => by
      rw [eval, value, Run.ofExcept_bind, eval_quiet target h]
  | compare op l r, h => by
      simp only [isQuiet, Bool.and_eq_true] at h
      simp only [eval, value, Run.ofExcept_bind, eval_quiet l h.1, eval_quiet r h.2]
      rfl
  | and l r, h => by
      simp only [isQuiet, Bool.and_eq_true] at h
      rw [eval, value, Run.ofExcept_bind, eval_quiet l h.1, eval_quiet r h.2]
      refine bind_congr fun a => ?_
      split <;> rfl
  | or l r, h => by
      simp only [isQuiet, Bool.and_eq_true] at h
      rw [eval, value, Run.ofExcept_bind, eval_quiet l h.1, eval_quiet r h.2]
      refine bind_congr fun a => ?_
      split <;> rfl
  | not e, h => by
      rw [eval, value, Run.ofExcept_bind, eval_quiet e h]
      rfl
  | cond test yes no, h => by
      simp only [isQuiet, Bool.and_eq_true] at h
      rw [eval, value, Run.ofExcept_bind, eval_quiet test h.1, eval_quiet yes h.2.1,
        eval_quiet no h.2.2]
      refine bind_congr fun a => ?_
      split <;> rfl
  | tagged .., _ | unknown _, _ | raw _, _ => rfl

end Expr

/-- Compiling a lambda only checks it. -/
lemma Compiled.eq_of_compile {props : EvaluationProperties} {binder body : Expr} {c : Compiled}
    (h : (Expr.lambda binder body).compile props = .ok c) : c = ⟨props, binder, body⟩ := by
  obtain ⟨_, -, h⟩ := bind_eq_ok.mp h
  cases h
  rfl

/-- Calling a lambda with a quiet body leaves the world as it is. -/
theorem Compiled.call_quiet {props : EvaluationProperties} {binder body : Expr}
    (quiet : body.isQuiet = true) (host : Host) (entity : Item) (w : World) :
    (call ⟨props, binder, body⟩ host entity).run w =
      ((do binder.hashable; body.value props (Evaluator.bind binder entity [])), w) := by
  have hcall : call ⟨props, binder, body⟩ host entity =
      Run.ofExcept (do binder.hashable; body.value props (Evaluator.bind binder entity [])) := by
    rw [Run.ofExcept_bind]
    exact bind_congr fun _ => Expr.eval_quiet body quiet
  rw [hcall, Run.run_ofExcept]

end Criteria
