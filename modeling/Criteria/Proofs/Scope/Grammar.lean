import Criteria.Eval.Compile
import Mathlib.Tactic.Lemma
import Mathlib.Tactic.SplitIfs

/-!
# Trees of the grammar and what they leave free

A tree is *proper* if traversals can go through all of it: every node belongs to the grammar and
every binder is a parameter.  On proper trees the two analyses of scopes say the same.

* `Expr.isProper`, `Expr.binders` — proper trees, and the parameters that the lambdas inside a tree
  bind.
* **`check_eq_report`** — checking a tree reports the first of the references that collecting finds
  free, and nothing if it finds none.
* `freeParams_eq_nil_iff` — a lambda without free parameters is one whose body passes the check.
-/

namespace Criteria.Expr

/-! ## Proper trees -/

mutual

/-- Whether every node belongs to the grammar and every binder is a parameter. -/
def isProper : Expr → Bool
  | param _ | const _ => true
  | member target _ => target.isProper
  | call _ args _ => allProper args
  | compare _ l r | and l r | or l r => l.isProper && r.isProper
  | not e => e.isProper
  | cond test yes no => test.isProper && (yes.isProper && no.isProper)
  | lambda binder body => binder.asParam?.isSome && body.isProper
  | tagged .. | unknown _ | raw _ => false

def allProper : List Expr → Bool
  | [] => true
  | e :: es => e.isProper && allProper es

end

mutual

/-- The parameters that the lambdas inside the tree bind, in the order of the walk. -/
def binders : Expr → List Param
  | param _ | const _ | unknown _ | raw _ => []
  | member target _ | tagged target _ _ => target.binders
  | call _ args _ => allBinders args
  | compare _ l r | and l r | or l r => l.binders ++ r.binders
  | not e => e.binders
  | cond test yes no => test.binders ++ (yes.binders ++ no.binders)
  | lambda binder body => binder.asParam?.toList ++ body.binders

def allBinders : List Expr → List Param
  | [] => []
  | e :: es => e.binders ++ allBinders es

end

/-- A proper lambda has a parameter as its binder. -/
lemma isProper_lambda {binder body : Expr} (h : (lambda binder body).isProper = true) :
    ∃ p, binder = param p ∧ body.isProper = true := by
  simp only [isProper, Bool.and_eq_true] at h
  obtain ⟨hb, hbody⟩ := h
  cases binder <;> simp [asParam?] at hb
  exact ⟨_, rfl, hbody⟩

/-! ## The two analyses of scopes -/

/-- The outcome of a check that met these free references. -/
def report : List Param → Except Error Unit
  | [] => .ok ()
  | p :: _ => .error (.unbound (.reference p))

lemma report_append (ps qs : List Param) :
    report (ps ++ qs) = (do report ps; report qs) := by
  cases ps <;> rfl

lemma report_eq_ok_iff (ps : List Param) : report ps = .ok () ↔ ps = [] := by
  cases ps <;> simp [report]

/-- Two parts of a tree, one after the other: what both analyses do with them. -/
private lemma report_pair {a b : Except Fault (List Param)} {c d : Except Error Unit}
    (hl : ∃ ps, a = .ok ps ∧ c = report ps) (hr : ∃ ps, b = .ok ps ∧ d = report ps) :
    ∃ ps, (do return (← a) ++ (← b)) = Except.ok ps ∧ (do c; d) = report ps := by
  obtain ⟨ps, rfl, rfl⟩ := hl
  obtain ⟨qs, rfl, rfl⟩ := hr
  exact ⟨ps ++ qs, rfl, (report_append ps qs).symm⟩

mutual

/-- **Both analyses agree.**  On a proper tree collecting succeeds, and checking reports the first
free reference that it finds. -/
theorem check_eq_report (scope : List Param) :
    ∀ e : Expr, e.isProper = true →
      ∃ free, collectFree scope e = .ok free ∧ check scope e = report free
  | param p, _ => by
      rw [collectFree, check]
      split_ifs with h
      · exact ⟨[], rfl, rfl⟩
      · exact ⟨[p], rfl, rfl⟩
  | const _, _ => ⟨[], rfl, rfl⟩
  | member target _, h => check_eq_report scope target h
  | call _ args _, h => checkAll_eq_report scope args h
  | compare _ l r, h | and l r, h | or l r, h => by
      simp only [isProper, Bool.and_eq_true] at h
      exact report_pair (check_eq_report scope l h.1) (check_eq_report scope r h.2)
  | not e, h => check_eq_report scope e h
  | cond test yes no, h => by
      simp only [isProper, Bool.and_eq_true] at h
      have tail := report_pair (check_eq_report scope yes h.2.1) (check_eq_report scope no h.2.2)
      obtain ⟨ps, hps, hcheck⟩ := report_pair (check_eq_report scope test h.1) tail
      refine ⟨ps, ?_, hcheck⟩
      rw [← hps, collectFree]
      simp only [bind_assoc, pure_bind]
  | lambda binder body, h => by
      obtain ⟨p, rfl, hbody⟩ := isProper_lambda h
      exact check_eq_report (p :: scope) body hbody
  | tagged .., h | unknown _, h | raw _, h => by simp [isProper] at h

theorem checkAll_eq_report (scope : List Param) :
    ∀ es : List Expr, allProper es = true →
      ∃ free, collectFreeAll scope es = .ok free ∧ checkAll scope es = report free
  | [], _ => ⟨[], rfl, rfl⟩
  | e :: es, h => by
      simp only [allProper, Bool.and_eq_true] at h
      exact report_pair (check_eq_report scope e h.1) (checkAll_eq_report scope es h.2)

end

/-- A lambda over a parameter has no free parameters exactly if its body passes the check. -/
theorem freeParams_eq_nil_iff {p : Param} {body : Expr} (proper : body.isProper = true) :
    freeParams (param p) body = .ok [] ↔ check [p] body = .ok () := by
  obtain ⟨free, hfree, hcheck⟩ := check_eq_report [p] body proper
  have hparams : freeParams (param p) body = .ok free.eraseDups := by
    simp only [freeParams, hashable, asParam?, Option.toList_some]
    rw [hfree]
    rfl
  rw [hparams, hcheck, report_eq_ok_iff]
  cases free with
  | nil => simp
  | cons q free => simp [List.eraseDups_cons]

/-- A lambda whose body passes the check compiles to itself. -/
lemma compile_of_check {p : Param} {body : Expr} (closed : check [p] body = .ok ())
    (props : EvaluationProperties) :
    (lambda (param p) body).compile props = .ok ⟨props, param p, body⟩ := by
  simp only [compile, asParam?, Option.toList_some]
  rw [closed]
  rfl

end Criteria.Expr
