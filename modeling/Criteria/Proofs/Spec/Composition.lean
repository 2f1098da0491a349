import Criteria.Proofs.Scope.Rebind
import Criteria.Proofs.Spec.Reference

/-!
# Composition agrees with separate evaluation

A combined specification is one lambda over the parameter of its leftmost leaf.  The lambdas of all
other leaves are re-expressed over that parameter, some of them several times.

* `Lambda.Apart outer` — the invariant.  The lambda is closed, stands on a parameter among `outer` and
  binds none of them inside.
* `rebound_apart` — re-expressing such a lambda over another outer parameter keeps the invariant, and
  nobody can tell the difference.
* `merge_apart` — joining two such lambdas joins their decisions.
* `toLambda_apart` — by induction on the specification, its lambda satisfies the invariant and holds
  exactly when the reference says so.
* **`compile_agrees`** — the compiled specification of any recipe has the outcome and the effects of
  the reference.
-/

namespace Criteria

open Criteria.Expr (check rebound redirect)

/-! ## The invariant -/

/-- A closed lambda over a parameter among `outer` with no lambda inside that binds one of them. -/
def Lambda.Apart (outer : List Param) (l : Lambda) : Prop :=
  ∃ p ∈ outer, l.binder = .param p ∧ l.body.isProper = true ∧ check [p] l.body = .ok () ∧
    ∀ b ∈ l.body.binders, b ∉ outer

namespace Lambda

variable {outer : List Param}

/-- A closed lambda stands on a parameter. -/
lemma Closed.param {l : Lambda} (h : l.Closed) :
    ∃ p, l.binder = .param p ∧ l.body.isProper = true ∧ check [p] l.body = .ok () := by
  obtain ⟨binder, body⟩ := l
  obtain ⟨hproper, hfree⟩ := h
  obtain ⟨p, rfl, hbody⟩ := Expr.isProper_lambda hproper
  exact ⟨p, rfl, hbody, (Expr.freeParams_eq_nil_iff hbody).mp hfree⟩

/-- A lambda without free references compiles to itself. -/
lemma compile_of_check {p : Param} {body : Expr} (closed : check [p] body = .ok ())
    (props : EvaluationProperties) :
    (toExpr ⟨.param p, body⟩).compile props = .ok ⟨props, .param p, body⟩ :=
  Expr.compile_of_check closed props

lemma Apart.negate {l : Lambda} (h : l.Apart outer) : l.negate.Apart outer := h

/-- Joining two conditions over one parameter keeps the invariant. -/
lemma Apart.connect (c : Combination) {p : Param} {a b : Expr} (ha : Apart outer ⟨.param p, a⟩)
    (hb : Apart outer ⟨.param p, b⟩) : Apart outer ⟨.param p, c.connective a b⟩ := by
  obtain ⟨_, hp, ⟨rfl⟩, haProper, haCheck, haBinders⟩ := ha
  obtain ⟨_, -, ⟨rfl⟩, hbProper, hbCheck, hbBinders⟩ := hb
  have hproper : (a.isProper && b.isProper) = true := by rw [haProper, hbProper, Bool.and_self]
  have hcheck : (do check [p] a; check [p] b : Except Error Unit) = .ok () :=
    Expr.check_pair.mpr ⟨haCheck, hbCheck⟩
  have hbinders : ∀ x ∈ a.binders ++ b.binders, x ∉ outer :=
    List.forall_mem_append.mpr ⟨haBinders, hbBinders⟩
  cases c <;> exact ⟨p, hp, rfl, hproper, hcheck, hbinders⟩

/-- Redirecting between outer parameters leaves the binders inside alone. -/
lemma binders_redirect {p t : Param} {body : Expr} (hp : p ∈ outer)
    (apart : ∀ b ∈ body.binders, b ∉ outer) :
    body.binders.map (redirect p t) = body.binders := by
  refine (List.map_congr_left fun b hb => ?_).trans (List.map_id _)
  refine if_neg ?_
  rintro rfl
  exact apart b hb hp

/-- **Re-expressing over another outer parameter.**  The invariant is kept, and nobody can tell the
difference. -/
theorem rebound_apart {p t : Param} {body : Expr} (h : Apart outer ⟨.param p, body⟩) (ht : t ∈ outer) :
    Apart outer ⟨.param t, rebound p t body⟩ ∧
      Decides ⟨.param t, rebound p t body⟩ (holds ⟨.param p, body⟩) := by
  obtain ⟨_, hp, ⟨rfl⟩, hproper, hcheck, hbinders⟩ := h
  constructor
  · refine ⟨t, ht, rfl, Expr.isProper_rebound t hproper, Expr.check_rebound t hproper hcheck, ?_⟩
    rw [Expr.binders_rebound t hproper, binders_redirect hp hbinders]
    exact hbinders
  · intro props host entity
    have fresh : t ∉ body.binders := fun hmem => hbinders t hmem ht
    have hsep := Expr.separates_redirect (p := p) hproper hcheck fresh
    have halpha : Expr.AlphaEq [] (toExpr ⟨.param p, body⟩) (toExpr ⟨.param t, rebound p t body⟩) :=
      (Expr.alphaEq_rebound_iff t hproper hcheck).mpr hsep
    exact (holds_sim props host entity halpha).symm

lemma rebind_eq_rebound {p : Param} {body : Expr} (proper : body.isProper = true) (t : Param) :
    rebind ⟨.param p, body⟩ t = .ok ⟨.param t, rebound p t body⟩ := by
  by_cases hpt : p = t
  · subst hpt
    rw [Expr.rebound_self]
    exact if_pos rfl
  · obtain ⟨s, hs, hres⟩ := Expr.replace_eq_rebound p t proper
    have hbinder : ¬ (Expr.param p).asParam? = some t := by simpa [Expr.asParam?] using hpt
    rw [rebind, if_neg hbinder, hs, ← hres]
    rfl

/-- Merging re-expresses the right body over the parameter of the left one and joins the two. -/
lemma merge_eq_connective (c : Combination) {p q : Param} (a : Expr) {b : Expr}
    (proper : b.isProper = true) :
    merge c.connective ⟨.param p, a⟩ ⟨.param q, b⟩ =
      .ok ⟨.param p, c.connective a (rebound q p b)⟩ := by
  simp only [merge, Expr.rebindTarget, bind, Except.bind, rebind_eq_rebound proper]
  rfl

lemma holds_connective (c : Combination) {p : Param} {a b : Expr} {props : EvaluationProperties}
    {host : Host} {entity : Item} :
    holds ⟨.param p, c.connective a b⟩ props host entity =
      c.plain.decide (holds ⟨.param p, a⟩ props host entity)
        (holds ⟨.param p, b⟩ props host entity) := by
  cases c with
  | and | nor => exact holds_and
  | or | nand => exact holds_or

/-- **Merging.**  The right condition is re-expressed over the parameter of the left one, and the
bodies are joined. -/
lemma merge_apart (c : Combination) {l r : Lambda} (hl : l.Apart outer) (hr : r.Apart outer)
    {left right : Decision} (hleft : l.Decides left) (hright : r.Decides right) :
    ∃ m, merge c.connective l r = .ok m ∧ m.Apart outer ∧
      m.Decides fun props host entity =>
        c.plain.decide (left props host entity) (right props host entity) := by
  obtain ⟨binder, a⟩ := l
  obtain ⟨binder', b⟩ := r
  obtain ⟨p, hp, rfl, -⟩ := id hl
  obtain ⟨q, -, rfl, hproper, -⟩ := id hr
  obtain ⟨hbody, hsim⟩ := rebound_apart hr hp
  refine ⟨_, merge_eq_connective c a hproper, hl.connect c hbody, fun props host entity => ?_⟩
  rw [holds_connective]
  have hrebound := (hsim props host entity).trans (hright props host entity)
  exact c.plain.decide_sim (hleft props host entity) hrebound

lemma Decides.negate {l : Lambda} {d : Decision} (h : l.Decides d) (apart : l.Apart outer) :
    l.negate.Decides fun props host entity => do return !(← d props host entity) := by
  obtain ⟨binder, body⟩ := l
  obtain ⟨p, -, rfl, -⟩ := apart
  intro props host entity
  rw [Lambda.negate, holds_not]
  refine .bind (h props host entity) ?_
  rintro b _ rfl
  exact .pure rfl

end Lambda

namespace Build

variable {α β : Type} {n n' : Nat}

lemma run_bind_ok {m : Build α} {f : α → Build β} {a : α} (h : m.run n = .ok (a, n')) :
    (m >>= f).run n = (f a).run n' := by
  rw [StateT.run_bind, h]
  rfl

lemma run_lift_ok {r : Except Error α} {a : α} (h : r = .ok a) :
    (liftM r : Build α).run n = .ok (a, n) := by
  rw [h]
  rfl

end Build

namespace Spec

/-- The invariant of a specification whose copies are numbered from `n` on. -/
structure Within (outer : List Param) (n : Nat) (s : Spec) : Prop where
  apart : ∀ l ∈ s.lambdas, l.Apart outer
  fresh : ∀ i, n ≤ i → i < n + s.copies → ⟨i, Param.defaultName⟩ ∈ outer

/-- Isolated specifications satisfy the invariant with their own outer parameters. -/
lemma Isolated.within {s : Spec} {n : Nat} (h : s.Isolated n) : s.Within (s.outerParams n) n := by
  refine ⟨fun l hl => ?_, fun i hlow hhigh => ?_⟩
  · obtain ⟨p, hbinder, hproper, hcheck⟩ := (h.closed l hl).param
    refine ⟨p, List.mem_append_left _ ?_, hbinder, hproper, hcheck, h.apart l hl⟩
    exact List.mem_filterMap.mpr ⟨l, hl, by rw [hbinder]; rfl⟩
  · refine List.mem_append_right _ (List.mem_map.mpr ⟨i, ?_, rfl⟩)
    exact List.mem_range'_1.mpr ⟨hlow, hhigh⟩

lemma Within.left {outer : List Param} {n : Nat} {c : Combination} {l r : Spec}
    (h : (combine c l r).Within outer n) : l.Within outer n := by
  refine ⟨fun x hx => h.apart x (List.mem_append_left _ hx), fun i hlow hhigh => ?_⟩
  refine h.fresh i hlow ?_
  rw [copies]
  omega

lemma Within.right {outer : List Param} {n : Nat} {c : Combination} {l r : Spec}
    (h : (combine c l r).Within outer n) : r.Within outer (n + l.copies) := by
  refine ⟨fun x hx => h.apart x (List.mem_append_right _ hx), fun i hlow hhigh => ?_⟩
  refine h.fresh i (by omega) ?_
  rw [copies]
  omega

/-- A template makes a copy of its lambda over a new parameter. -/
lemma toLambda_template {p : Param} {body : Expr} (proper : body.isProper = true) (n : Nat) :
    (template p body).toLambda.run n =
      .ok (⟨.param ⟨n, Param.defaultName⟩, rebound p ⟨n, Param.defaultName⟩ body⟩, n + 1) := by
  obtain ⟨s, hs, hres⟩ := Expr.replace_eq_rebound p ⟨n, Param.defaultName⟩ proper
  have hfresh : Build.freshParam.run n = .ok (⟨n, Param.defaultName⟩, n + 1) := rfl
  rw [toLambda, Build.run_bind_ok hfresh, Build.run_bind_ok (Build.run_lift_ok hs), hres]
  rfl

/-- The copy cannot be told from the lambda. -/
lemma template_apart {outer : List Param} {n : Nat} {p : Param} {body : Expr}
    (h : (template p body).Within outer n) :
    ∃ l, (template p body).toLambda.run n = .ok (l, n + 1) ∧ l.Apart outer ∧
      l.Decides (template p body).decide := by
  have hq : ⟨n, Param.defaultName⟩ ∈ outer := h.fresh n (le_refl n) (Nat.lt_succ_self n)
  have hown : Lambda.Apart outer ⟨.param p, body⟩ := h.apart _ (List.mem_singleton_self _)
  obtain ⟨hcopy, hsim⟩ := Lambda.rebound_apart hown hq
  obtain ⟨_, _, ⟨rfl⟩, hproper, -⟩ := hown
  exact ⟨_, toLambda_template hproper n, hcopy, hsim⟩

/-- **The lambda of a specification holds when the reference says so.** -/
theorem toLambda_apart {outer : List Param} : ∀ (s : Spec) (n : Nat), s.Within outer n →
    ∃ l, s.toLambda.run n = .ok (l, n + s.copies) ∧ l.Apart outer ∧ l.Decides s.decide
  | everything, n, h => ⟨_, rfl, h.apart _ (List.mem_singleton_self _), fun _ _ _ => .pure rfl⟩
  | tree l, n, h => ⟨l, rfl, h.apart _ (List.mem_singleton_self _), l.decides_holds⟩
  | predicate f label p, n, h =>
      ⟨_, rfl, h.apart _ (List.mem_singleton_self _), Lambda.decides_holds _⟩
  | template p body, n, h => template_apart h
  | combine c l r, n, h => by
      obtain ⟨left, hleft, hleftApart, hleftDecides⟩ := toLambda_apart l n h.left
      obtain ⟨right, hright, hrightApart, hrightDecides⟩ :=
        toLambda_apart r (n + l.copies) h.right
      rw [toLambda, Build.run_bind_ok hleft, Build.run_bind_ok hright, copies, ← Nat.add_assoc]
      cases hneg : c.negates with
      | true =>
          obtain ⟨m, hmerge, hapart, hdecides⟩ := Lambda.merge_apart c hleftApart.negate
            hrightApart.negate (hleftDecides.negate hleftApart) (hrightDecides.negate hrightApart)
          refine ⟨m, Build.run_lift_ok hmerge, hapart, fun props host entity => ?_⟩
          show Run.Sim Eq (m.holds props host entity)
            (c.decide (l.decide props host entity) (r.decide props host entity))
          rw [Combination.decide_of_negates hneg]
          exact hdecides props host entity
      | false =>
          obtain ⟨m, hmerge, hapart, hdecides⟩ :=
            Lambda.merge_apart c hleftApart hrightApart hleftDecides hrightDecides
          refine ⟨m, Build.run_lift_ok hmerge, hapart, fun props host entity => ?_⟩
          show Run.Sim Eq (m.holds props host entity)
            (c.decide (l.decide props host entity) (r.decide props host entity))
          rw [Combination.decide_of_not_negates hneg]
          exact hdecides props host entity
  | negated s, n, h => by
      obtain ⟨l, hrun, hapart, hdecides⟩ := toLambda_apart s n ⟨h.apart, h.fresh⟩
      refine ⟨l.negate, ?_, hapart.negate, hdecides.negate hapart⟩
      rw [toLambda, Build.run_bind_ok hrun]
      rfl

end Spec

namespace Recipe

/-- **Composition agrees with separate evaluation.**  However a specification is put together from
closed leaves whose nested lambdas bind none of the leaves' parameters, compiling it succeeds, and on
every entity the compiled condition ends like the reference: with the same truth value or the same
fault, and having recorded the same. -/
theorem compile_agrees (r : Recipe) (n : Nat) (isolated : r.spec.Isolated n)
    (props : EvaluationProperties) :
    ∃ c, (r.spec.compile props).run n = .ok (c, n + r.spec.copies) ∧
      ∀ (host : Host) (entity : Item) (w : World),
        ((c.test host entity).run w).1 = ((r.decide props host entity).run w).1 ∧
        ((c.test host entity).run w).2.seen = ((r.decide props host entity).run w).2.seen := by
  obtain ⟨l, hrun, hapart, hdecides⟩ := Spec.toLambda_apart r.spec n isolated.within
  obtain ⟨binder, body⟩ := l
  obtain ⟨p, -, rfl, -, hcheck, -⟩ := hapart
  have hcompile := Lambda.compile_of_check hcheck props
  refine ⟨⟨r.spec, props, .param p, body⟩, ?_, fun host entity w => ?_⟩
  · rw [Spec.compile, Build.run_bind_ok hrun, Build.run_bind_ok (Build.run_lift_ok hcompile)]
    rfl
  · obtain ⟨hresult, hworld⟩ := hdecides props host entity w w rfl
    rw [decide_spec] at hresult hworld
    exact ⟨hresult.eq, hworld⟩

/-- Constructors and operations mixed: the former keep the neutral element, the latter leave it
out. -/
def mixed : Recipe :=
  .operate .nor
    (.construct .nand (.given (.tree ⟨.param ⟨1, "p"⟩, Expr.echoing ⟨1, "p"⟩ ⟨2, "t"⟩⟩))
      (.given .everything))
    (.operate .and (.given .everything)
      (.negate (.given (.predicate ⟨"anonymous", "<anonymous>", "<anonymous>"⟩ none ⟨3, "x"⟩))))

/-- The recipe `mixed` is isolated: its one nested lambda has a parameter of its own. -/
theorem compile_agrees_mixed :
    mixed.spec.Isolated 4 ∧ ∃ c, (mixed.spec.compile .default).run 4 = .ok (c, 4) ∧
      ∀ (host : Host) (entity : Item) (w : World),
        ((c.test host entity).run w).1 = ((mixed.decide .default host entity).run w).1 ∧
        ((c.test host entity).run w).2.seen =
          ((mixed.decide .default host entity).run w).2.seen := by
  have isolated : mixed.spec.Isolated 4 := by
    constructor
    · show ∀ l ∈ [_, _, _], Lambda.Closed l
      simp only [List.forall_mem_cons]
      exact ⟨⟨rfl, rfl⟩, ⟨rfl, rfl⟩, ⟨rfl, rfl⟩, fun _ h => nomatch h⟩
    · decide
  exact ⟨isolated, compile_agrees mixed 4 isolated .default⟩

end Recipe

end Criteria
