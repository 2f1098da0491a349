import Criteria.Proofs.Eval.Similar

/-!
# Applying a lambda fills in its parameter

A compiled lambda finds its argument in a frame, which the functions made inside it keep.  Substitution
writes the argument into the tree.  As long as no lambda inside binds the parameter again, both come to
the same.

**Trees.**
* `Expr.filled p d e` — the tree with the constant `d` for every reference to `p`.
* `Expr.Fillable` — what is asked of the tree, and `check_filled`, that what was bound stays bound.

**Runs.**
* `Item.Filled`, `Frame.Filled` — functions of which one has `d` in its frame and the other one in its
  tree.
* **`eval_filled`** — trees evaluate alike, by induction on the tree.
* `apply_filled` — applications up to any depth, by induction on the depth.
* **`call_substituted`** — so it is with compiled lambdas, whatever the filled one is applied to.
-/

namespace Criteria

namespace Expr

/-! ## Filling in -/

/-- The map that puts `d` in the place of `p`. -/
def filling (p : Param) (d : Datum) (r : Param) : Expr := if r = p then const d else param r

/-- The tree with `d` in the place of `p`. -/
def filled (p : Param) (d : Datum) (e : Expr) : Expr := e.mapParams (filling p d)

/-- The tree is proper, its references are bound in `scope`, and no lambda in it binds `p`. -/
structure Fillable (p : Param) (scope : List Param) (e : Expr) : Prop where
  proper : e.isProper = true
  closed : check scope e = .ok ()
  unbound : p ∉ e.binders

structure AllFillable (p : Param) (scope : List Param) (es : List Expr) : Prop where
  proper : allProper es = true
  closed : checkAll scope es = .ok ()
  unbound : p ∉ allBinders es

section Parts

variable {p : Param} {d : Datum} {scope : List Param}

lemma filling_self : filling p d p = const d := if_pos rfl

lemma filling_of_ne {r : Param} (h : r ≠ p) : filling p d r = param r := if_neg h

/-- A node over two parts. -/
private lemma fillable_parts {l r : Expr} (proper : (l.isProper && r.isProper) = true)
    (closed : (do check scope l; check scope r) = Except.ok ()) (unbound : p ∉ l.binders ++ r.binders) :
    Fillable p scope l ∧ Fillable p scope r := by
  rw [Bool.and_eq_true] at proper
  rw [check_pair] at closed
  rw [List.mem_append, not_or] at unbound
  exact ⟨⟨proper.1, closed.1, unbound.1⟩, ⟨proper.2, closed.2, unbound.2⟩⟩

namespace Fillable

variable {l r test yes no body binder : Expr} {op : CompareOp}

lemma compare (h : Fillable p scope (compare op l r)) : Fillable p scope l ∧ Fillable p scope r :=
  fillable_parts h.proper h.closed h.unbound

lemma and (h : Fillable p scope (and l r)) : Fillable p scope l ∧ Fillable p scope r :=
  fillable_parts h.proper h.closed h.unbound

lemma or (h : Fillable p scope (or l r)) : Fillable p scope l ∧ Fillable p scope r :=
  fillable_parts h.proper h.closed h.unbound

lemma cond (h : Fillable p scope (cond test yes no)) :
    Fillable p scope test ∧ Fillable p scope yes ∧ Fillable p scope no := by
  obtain ⟨proper, closed, unbound⟩ := h
  simp only [isProper, Bool.and_eq_true] at proper
  rw [check, check_pair, check_pair] at closed
  simp only [binders, List.mem_append, not_or] at unbound
  exact ⟨⟨proper.1, closed.1, unbound.1⟩, ⟨proper.2.1, closed.2.1, unbound.2.1⟩,
    ⟨proper.2.2, closed.2.2, unbound.2.2⟩⟩

/-- A lambda binds another parameter, whose scope is its body. -/
lemma lambda (h : Fillable p scope (lambda binder body)) :
    ∃ r, binder = param r ∧ r ≠ p ∧ Fillable p (r :: scope) body := by
  obtain ⟨proper, closed, unbound⟩ := h
  obtain ⟨r, rfl, hbody⟩ := isProper_lambda proper
  simp only [binders, asParam?, Option.toList_some, List.singleton_append, List.mem_cons,
    not_or] at unbound
  exact ⟨r, rfl, Ne.symm unbound.1, hbody, closed, unbound.2⟩

end Fillable

lemma AllFillable.cons {e : Expr} {es : List Expr} (h : AllFillable p scope (e :: es)) :
    Fillable p scope e ∧ AllFillable p scope es := by
  obtain ⟨proper, closed, unbound⟩ := h
  simp only [allProper, Bool.and_eq_true] at proper
  rw [checkAll, check_pair] at closed
  simp only [allBinders, List.mem_append, not_or] at unbound
  exact ⟨⟨proper.1, closed.1, unbound.1⟩, ⟨proper.2, closed.2, unbound.2⟩⟩

lemma filled_lambda {r : Param} (h : r ≠ p) (body : Expr) :
    filled p d (lambda (param r) body) = lambda (param r) (filled p d body) := by
  rw [filled, mapParams, mapParams, filling_of_ne h]
  rfl

mutual

/-- **Filling in leaves nothing unbound**, even where `p` itself is not in scope. -/
theorem check_filled {scope scope' : List Param} (d : Datum)
    (hscope : ∀ r ∈ scope, r ≠ p → r ∈ scope') :
    ∀ e : Expr, Fillable p scope e → check scope' (filled p d e) = .ok ()
  | param r, h => by
      have hr := h.closed
      rw [check] at hr
      split_ifs at hr with hmem
      rw [filled, mapParams]
      by_cases hrp : r = p
      · subst hrp
        rw [filling_self]
        rfl
      · rw [filling_of_ne hrp, check, if_pos]
        simpa using hscope r (by simpa using hmem) hrp
  | const _, _ => rfl
  | member target _, h => check_filled d hscope target ⟨h.proper, h.closed, h.unbound⟩
  | call _ args _, h => checkAll_filled d hscope args ⟨h.proper, h.closed, h.unbound⟩
  | compare _ l r, h =>
      check_pair.mpr ⟨check_filled d hscope l h.compare.1, check_filled d hscope r h.compare.2⟩
  | and l r, h => check_pair.mpr ⟨check_filled d hscope l h.and.1, check_filled d hscope r h.and.2⟩
  | or l r, h => check_pair.mpr ⟨check_filled d hscope l h.or.1, check_filled d hscope r h.or.2⟩
  | not e, h => check_filled d hscope e ⟨h.proper, h.closed, h.unbound⟩
  | cond test yes no, h => by
      obtain ⟨htest, hyes, hno⟩ := h.cond
      rw [filled, mapParams, check, check_pair, check_pair]
      exact ⟨check_filled d hscope test htest, check_filled d hscope yes hyes,
        check_filled d hscope no hno⟩
  | lambda binder body, h => by
      obtain ⟨r, rfl, hr, hbody⟩ := h.lambda
      rw [filled_lambda hr, check]
      refine check_filled d ?_ body hbody
      rintro k hk hkp
      obtain rfl | hk := List.mem_cons.mp hk
      · exact List.mem_cons_self
      · exact List.mem_cons_of_mem _ (hscope k hk hkp)
  | tagged .., h | unknown _, h | raw _, h => by simpa [isProper] using h.proper

theorem checkAll_filled {scope scope' : List Param} (d : Datum)
    (hscope : ∀ r ∈ scope, r ≠ p → r ∈ scope') :
    ∀ es : List Expr, AllFillable p scope es →
      checkAll scope' (mapParamsAll (filling p d) es) = .ok ()
  | [], _ => rfl
  | e :: es, h =>
      check_pair.mpr ⟨check_filled d hscope e h.cons.1, checkAll_filled d hscope es h.cons.2⟩

end

end Parts

end Expr

open Criteria.Expr

/-! ## Filled functions -/

mutual

/-- One datum, or functions made at the same moment: on the left `p` stands for `d` in the frame, on
the right `d` was filled in. -/
inductive Item.Filled (p : Param) (d : Datum) : Item → Item → Prop where
  | datum (c : Datum) : Item.Filled p d (.datum c) (.datum c)
  | closure {serial : Nat} {r : Param} {e : Expr} {fr fr' : List (Param × Item)} :
      Fillable p (fr.map Prod.fst) (lambda (param r) e) → Frame.Filled p d fr fr' →
      Item.Filled p d (.closure serial (param r) e fr) (.closure serial (param r) (filled p d e) fr')

/-- Frames in which `p` stands for `d` outermost on the left, and where nothing is asked of what stands
there on the right. -/
inductive Frame.Filled (p : Param) (d : Datum) :
    List (Param × Item) → List (Param × Item) → Prop where
  | outermost (q : Param) (x : Item) : Frame.Filled p d [(p, .datum d)] [(q, x)]
  | cons {r : Param} {i i' : Item} {fr fr' : List (Param × Item)} : r ≠ p →
      Item.Filled p d i i' → Frame.Filled p d fr fr' → Frame.Filled p d ((r, i) :: fr) ((r, i') :: fr')

end

variable {p : Param} {d : Datum}

lemma Item.Filled.similarity : Item.Similarity (Item.Filled p d) where
  datum := .datum
  seen h := by cases h <;> rfl

namespace Frame.Filled

variable {fr fr' : Frame}

/-- On the left `p` stands for `d`. -/
lemma lookup_self (h : Frame.Filled p d fr fr') : List.lookup p fr = some (.datum d) := by
  induction fr generalizing fr' with
  | nil => cases h
  | cons head fr ih =>
      cases h with
      | outermost => exact List.lookup_cons_self
      | cons hr _ hfr =>
          rw [List.lookup_cons, beq_eq_false_iff_ne.mpr (Ne.symm hr)]
          exact ih hfr

/-- Any other parameter stands for filled items. -/
lemma lookup (h : Frame.Filled p d fr fr') {r : Param} (hr : r ≠ p) (bound : r ∈ fr.map Prod.fst) :
    ∃ i i', List.lookup r fr = some i ∧ List.lookup r fr' = some i' ∧ Item.Filled p d i i' := by
  induction fr generalizing fr' with
  | nil => cases h
  | cons head fr ih =>
      cases h with
      | outermost => exact absurd (List.mem_singleton.mp bound) hr
      | @cons k i i' _ fr' _ hi hfr =>
          rw [List.lookup_cons, List.lookup_cons]
          by_cases hrk : r = k
          · subst hrk
            exact ⟨i, i', by simp, by simp, hi⟩
          · rw [beq_eq_false_iff_ne.mpr hrk]
            exact ih hfr (List.mem_of_ne_of_mem hrk bound)

end Frame.Filled

/-! ## Trees -/

namespace Expr

variable {m : Evaluator} {apply apply' : Item → Item → Run Item}

mutual

/-- **A tree evaluates like the filled one.** -/
theorem eval_filled
    (happly : ∀ f f' x x', Item.Filled p d f f' → Item.Filled p d x x' →
      Run.Sim (Item.Filled p d) (apply f x) (apply' f' x'))
    {fr fr' : Frame} (hfr : Frame.Filled p d fr fr') :
    ∀ e : Expr, Fillable p (fr.map Prod.fst) e →
      Run.Sim (Item.Filled p d) (e.eval m apply fr) ((filled p d e).eval m apply' fr')
  | param r, h => by
      have hr := h.closed
      rw [check] at hr
      split_ifs at hr with hmem
      rw [filled, mapParams]
      by_cases hrp : r = p
      · subst hrp
        rw [filling_self, eval, eval, hfr.lookup_self]
        exact .pure (.datum d)
      · obtain ⟨i, i', hi, hi', hfilled⟩ := hfr.lookup hrp (List.contains_iff_mem.mp hmem)
        rw [filling_of_ne hrp, eval, eval, hi, hi']
        exact .pure hfilled
  | const c, _ => .pure (.datum c)
  | member target name, h =>
      Item.Filled.similarity.congruence.member name
        (eval_filled happly hfr target ⟨h.proper, h.closed, h.unbound⟩)
  | call f args label, h =>
      eval_call_related f label (evalAll_filled happly hfr args ⟨h.proper, h.closed, h.unbound⟩)
        (Host.run_sim Item.Filled.similarity m.host happly)
  | compare op l r, h =>
      Item.Filled.similarity.congruence.compare op (eval_filled happly hfr l h.compare.1)
        (eval_filled happly hfr r h.compare.2)
  | and l r, h =>
      Item.Filled.similarity.congruence.and (eval_filled happly hfr l h.and.1)
        (eval_filled happly hfr r h.and.2)
  | or l r, h =>
      Item.Filled.similarity.congruence.or (eval_filled happly hfr l h.or.1)
        (eval_filled happly hfr r h.or.2)
  | not e, h =>
      Item.Filled.similarity.congruence.not
        (eval_filled happly hfr e ⟨h.proper, h.closed, h.unbound⟩)
  | cond test yes no, h => by
      obtain ⟨htest, hyes, hno⟩ := h.cond
      exact Item.Filled.similarity.congruence.cond (eval_filled happly hfr test htest)
        (eval_filled happly hfr yes hyes) (eval_filled happly hfr no hno)
  | lambda binder body, h => by
      obtain ⟨r, rfl, hr, -⟩ := h.lambda
      rw [filled_lambda hr, eval, eval]
      refine .bind .allocate fun k k' hk => ?_
      rw [hk]
      exact .pure (.closure h hfr)
  | tagged .., h | unknown _, h | raw _, h => by simpa [isProper] using h.proper

theorem evalAll_filled
    (happly : ∀ f f' x x', Item.Filled p d f f' → Item.Filled p d x x' →
      Run.Sim (Item.Filled p d) (apply f x) (apply' f' x'))
    {fr fr' : Frame} (hfr : Frame.Filled p d fr fr') :
    ∀ es : List Expr, AllFillable p (fr.map Prod.fst) es →
      Run.Sim (List.Forall₂ (Item.Filled p d)) (evalAll m apply fr es)
        (evalAll m apply' fr' (mapParamsAll (filling p d) es))
  | [], _ => .pure .nil
  | e :: es, h =>
      evalAll_cons_related (eval_filled happly hfr e h.cons.1) (evalAll_filled happly hfr es h.cons.2)

end

end Expr

/-! ## Functions -/

namespace Evaluator

variable {m : Evaluator} {apply apply' : Item → Item → Run Item}

/-- Entering the body of a lambda inside, with filled arguments. -/
lemma enter_filled
    (happly : ∀ f f' x x', Item.Filled p d f f' → Item.Filled p d x x' →
      Run.Sim (Item.Filled p d) (apply f x) (apply' f' x'))
    {r : Param} {e : Expr} {fr fr' : Frame} (h : Fillable p (fr.map Prod.fst) (.lambda (.param r) e))
    (hfr : Frame.Filled p d fr fr') {x x' : Item} (hx : Item.Filled p d x x') :
    Run.Sim (Item.Filled p d) (m.enter apply (.param r) e fr x)
      (m.enter apply' (.param r) (filled p d e) fr' x') := by
  obtain ⟨k, hk, hne, hbody⟩ := h.lambda
  cases hk
  unfold enter
  refine .bind (.pure (R := Eq) rfl) fun _ _ _ => ?_
  exact eval_filled happly (.cons hne hx hfr) e hbody

/-- Filled functions do the same with filled arguments, at any depth. -/
theorem apply_filled (m : Evaluator) : ∀ (depth : Nat) (f f' x x' : Item), Item.Filled p d f f' →
    Item.Filled p d x x' → Run.Sim (Item.Filled p d) (m.apply depth f x) (m.apply depth f' x') := by
  intro depth
  induction depth with
  | zero =>
      intro f f' x x' hf _
      cases hf <;> exact .throw _
  | succ depth ih =>
      intro f f' x x' hf hx
      cases hf with
      | datum => exact .throw _
      | closure h hfr => exact enter_filled ih h hfr hx

end Evaluator

namespace Compiled

/-- A lambda applied to `d` does what the filled lambda does with any argument. -/
theorem call_filled {props : EvaluationProperties} {body : Expr} (h : Fillable p [p] body) (q : Param)
    (host : Host) (x : Item) :
    Run.Sim (Item.Filled p d) (call ⟨props, .param p, body⟩ host (.datum d))
      (call ⟨props, .param q, filled p d body⟩ host x) := by
  unfold call Evaluator.enter
  refine .bind (.pure (R := Eq) rfl) fun _ _ _ => ?_
  exact eval_filled (Evaluator.apply_filled _ depthLimit) (.outermost q x) body h

end Compiled

namespace Expr

/-- **Application is substitution.**  A closed lambda is applied to `d`; or `d` is substituted for its
parameter, and the lambda over any parameter that has the outcome as its body is applied to anything.
Both compile, and they give the same value or functions made at the same moment, or end in the same
fault, and leave worlds that look the same. -/
theorem call_substituted (t : Traversal) {p : Param} {body : Expr} (proper : body.isProper = true)
    (closed : freeParams (param p) body = .ok []) (unbound : p ∉ body.binders)
    (props : EvaluationProperties) (d : Datum) (q : Param) :
    ∃ s, substitute t (filling p d) body = .ok s ∧
      (lambda (param p) body).compile props = .ok ⟨props, param p, body⟩ ∧
      (lambda (param q) (s.result body)).compile props = .ok ⟨props, param q, s.result body⟩ ∧
      ∀ (host : Host) (x : Item), Run.Sim (Item.Filled p d)
        (Compiled.call ⟨props, param p, body⟩ host (.datum d))
        (Compiled.call ⟨props, param q, s.result body⟩ host x) := by
  have hcheck := (freeParams_eq_nil_iff proper).mp closed
  have hfillable : Fillable p [p] body := ⟨proper, hcheck, unbound⟩
  have hkeeps : ∀ b ∈ body.binders, (filling p d b).asParam?.isSome = true := by
    rintro b hb
    have hbp : b ≠ p := by
      rintro rfl
      exact unbound hb
    rw [filling_of_ne hbp]
    rfl
  obtain ⟨s, hs, hres⟩ := substitute_eq_mapParams t (filling p d) body proper hkeeps
  have hfilled : check [q] (filled p d body) = .ok () :=
    check_filled d (fun r hr hrp => absurd (List.mem_singleton.mp hr) hrp) body hfillable
  have hresult : s.result body = filled p d body := hres
  refine ⟨s, hs, ?_⟩
  rw [hresult]
  exact ⟨compile_of_check hcheck props, compile_of_check hfilled props,
    fun host x => Compiled.call_filled hfillable q host x⟩

/-- A function that compares `p` with its argument, applied to `p`. -/
def selfCompared (p t : Param) : Expr :=
  call (.function ⟨"apply", "apply", "<function apply at 0x?>"⟩)
    [lambda (param t) (compare .eq (param p) (param t)), param p] none

/-- The argument is filled in below the lambda inside too, and the lambda over `t` runs alike. -/
theorem call_substituted_nested :
    (selfCompared ⟨1, "p"⟩ ⟨2, "t"⟩).isProper = true ∧
      freeParams (param ⟨1, "p"⟩) (selfCompared ⟨1, "p"⟩ ⟨2, "t"⟩) = .ok [] ∧
      ⟨1, "p"⟩ ∉ (selfCompared ⟨1, "p"⟩ ⟨2, "t"⟩).binders ∧
      ∃ s, substitute .substitution (filling ⟨1, "p"⟩ ⟨.int 7, ⟨1, []⟩⟩)
          (selfCompared ⟨1, "p"⟩ ⟨2, "t"⟩) = .ok s ∧
        s.result (selfCompared ⟨1, "p"⟩ ⟨2, "t"⟩) =
          call (.function ⟨"apply", "apply", "<function apply at 0x?>"⟩)
            [lambda (param ⟨2, "t"⟩)
              (compare .eq (const ⟨.int 7, ⟨1, []⟩⟩) (param ⟨2, "t"⟩)),
              const ⟨.int 7, ⟨1, []⟩⟩] none ∧
        ∀ (host : Host) (x : Item), Run.Sim (Item.Filled ⟨1, "p"⟩ ⟨.int 7, ⟨1, []⟩⟩)
          (Compiled.call ⟨.default, param ⟨1, "p"⟩, selfCompared ⟨1, "p"⟩ ⟨2, "t"⟩⟩ host
            (.datum ⟨.int 7, ⟨1, []⟩⟩))
          (Compiled.call ⟨.default, param ⟨3, "q"⟩,
            s.result (selfCompared ⟨1, "p"⟩ ⟨2, "t"⟩)⟩ host x) := by
  have proper : (selfCompared ⟨1, "p"⟩ ⟨2, "t"⟩).isProper = true := rfl
  have closed : freeParams (param ⟨1, "p"⟩) (selfCompared ⟨1, "p"⟩ ⟨2, "t"⟩) = .ok [] := rfl
  have unbound : ⟨1, "p"⟩ ∉ (selfCompared ⟨1, "p"⟩ ⟨2, "t"⟩).binders := by decide
  obtain ⟨s, hs, -, -, hsim⟩ := call_substituted .substitution proper closed unbound .default
    ⟨.int 7, ⟨1, []⟩⟩ ⟨3, "q"⟩
  refine ⟨proper, closed, unbound, s, hs, ?_, hsim⟩
  cases hs
  rfl

end Expr

end Criteria
