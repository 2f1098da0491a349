import Criteria.Proofs.Eval.Quiet
import Criteria.Proofs.Scope.Walk
import Criteria.Spec.Basic

/-!
# Every reference finds its parameter

A frame need not hold the parameter that is looked up in it; evaluation then ends in a fault.  That
this never happens to a compiled lambda is said here without a look at the outcome, which a called
function may have hidden: whatever were done in the place of that fault, evaluation would be the same.

**Evaluation with another answer.**
* `Expr.evalOr missing`, `Evaluator.applyOr missing`, `Compiled.callOr missing` — evaluation in which
  `missing` is done if a parameter is not found; with the fault it is evaluation
  (`evalOr_unbound`, `applyOr_unbound`, `callOr_unbound`).

**Items that are bound.**
* `Item.Bound` — the functions among an item and its parts refer to what their frames hold.
* `Run.Agree` — equal computations that give only bound items.  It goes through every step of
  evaluation (`evalOr_agree`), through scripts (`Script.run_agree`) and through applications up to any
  depth (`applyOr_agree`).
* **`compile_iff_closed`** — the analyses of scopes agree, and no look-up fails after they passed.
-/

namespace Criteria

open Criteria.Expr (check checkAll)

/-! ## Evaluation with another answer -/

namespace Expr

mutual

/-- The value of a node, where `missing` is done about a parameter that the frame does not hold. -/
def evalOr (missing : Param → Run Item) (m : Evaluator) (apply : Item → Item → Run Item)
    (frame : Frame) : Expr → Run Item
  | param p =>
    match frame.lookup p with
    | some i => pure i
    | none => missing p
  | const d => pure (.datum d)
  | member target name => do
    let i ← evalOr missing m apply frame target
    Run.ofExcept (m.properties.read name i)
  | call f args _ => do
    let is ← evalOrAll missing m apply frame args
    match f with
    | .function r =>
      let (as, table) := Script.presentAll [] is
      (m.host r.key as).run apply table
    | .value d => throw (.notCallable d.value.typeName)
  | compare op l r => do
    let a ← evalOr missing m apply frame l
    let b ← evalOr missing m apply frame r
    let holds ← Run.ofExcept (op.holds a b)
    return .ofBool holds
  | and l r => do
    let a ← evalOr missing m apply frame l
    if a.truthy then evalOr missing m apply frame r else pure a
  | or l r => do
    let a ← evalOr missing m apply frame l
    if a.truthy then pure a else evalOr missing m apply frame r
  | not e => do
    let a ← evalOr missing m apply frame e
    return .ofBool !a.truthy
  | cond test yes no => do
    let a ← evalOr missing m apply frame test
    if a.truthy then evalOr missing m apply frame yes else evalOr missing m apply frame no
  | lambda binder body => do
    let n ← Run.allocate
    return .closure n binder body frame
  | tagged .. | unknown _ | raw _ => throw .foreignNode

def evalOrAll (missing : Param → Run Item) (m : Evaluator) (apply : Item → Item → Run Item)
    (frame : Frame) : List Expr → Run (List Item)
  | [] => pure []
  | e :: es => do
    let i ← evalOr missing m apply frame e
    let is ← evalOrAll missing m apply frame es
    return i :: is

end

/-- The fault of a parameter that is not found. -/
def unbound (p : Param) : Run Item := throw (.unboundVariable p.name.shown)

section Unbound

variable (m : Evaluator) (apply : Item → Item → Run Item) (frame : Frame)

mutual

/-- With the fault it is evaluation. -/
theorem evalOr_unbound : ∀ e : Expr, evalOr unbound m apply frame e = eval m apply frame e
  | param _ | const _ => rfl
  | member target _ => by rw [evalOr, eval, evalOr_unbound target]
  | call f args _ => by
      rw [evalOr, evalOrAll_unbound args]
      rfl
  | compare _ l r => by rw [evalOr, eval, evalOr_unbound l, evalOr_unbound r]
  | and l r => by rw [evalOr, eval, evalOr_unbound l, evalOr_unbound r]
  | or l r => by rw [evalOr, eval, evalOr_unbound l, evalOr_unbound r]
  | not e => by rw [evalOr, eval, evalOr_unbound e]
  | cond t y n => by rw [evalOr, eval, evalOr_unbound t, evalOr_unbound y, evalOr_unbound n]
  | lambda .. => rfl
  | tagged .. | unknown _ | raw _ => rfl

theorem evalOrAll_unbound : ∀ es : List Expr,
    evalOrAll unbound m apply frame es = evalAll m apply frame es
  | [] => rfl
  | e :: es => by rw [evalOrAll, evalAll, evalOr_unbound e, evalOrAll_unbound es]

end

end Unbound

end Expr

namespace Evaluator

/-- Enters a function, where `missing` is done about a parameter that is not found. -/
def enterOr (missing : Param → Run Item) (m : Evaluator) (apply : Item → Item → Run Item)
    (binder body : Expr) (frame : Frame) (x : Item) : Run Item := do
  Run.ofExcept binder.hashable
  body.evalOr missing m apply (bind binder x frame)

/-- Applies one item to another, where `missing` is done about a parameter that is not found. -/
def applyOr (missing : Param → Run Item) (m : Evaluator) : (depth : Nat) → Item → Item → Run Item
  | _, .datum d, _ => throw (.notCallable d.value.typeName)
  | 0, .closure .., _ => throw .tooDeep
  | depth + 1, .closure _ binder body frame, x =>
    m.enterOr missing (m.applyOr missing depth) binder body frame x

variable (m : Evaluator)

lemma enterOr_unbound (apply : Item → Item → Run Item) (binder body : Expr) (frame : Frame)
    (x : Item) :
    m.enterOr Expr.unbound apply binder body frame x = m.enter apply binder body frame x := by
  rw [enterOr, enter, Expr.evalOr_unbound]

theorem applyOr_unbound (depth : Nat) : m.applyOr Expr.unbound depth = m.apply depth := by
  induction depth with
  | zero =>
      funext f x
      cases f <;> rfl
  | succ depth ih =>
      funext f x
      cases f with
      | datum d => rfl
      | closure serial binder body frame =>
          rw [applyOr, apply, ih, enterOr_unbound]

end Evaluator

namespace Compiled

/-- Applies the lambda to an entity, where `missing` is done about a parameter that is not found. -/
def callOr (missing : Param → Run Item) (c : Compiled) (host : Host) (entity : Item) : Run Item :=
  let m := c.evaluator host
  m.enterOr missing (m.applyOr missing depthLimit) c.binder c.body [] entity

lemma callOr_unbound (c : Compiled) (host : Host) (entity : Item) :
    c.callOr Expr.unbound host entity = c.call host entity := by
  rw [callOr, call, Evaluator.applyOr_unbound, Evaluator.enterOr_unbound]

end Compiled

/-! ## Bound items -/

mutual

/-- An item whose functions refer to nothing but their own parameters and what their frames hold. -/
inductive Item.Bound : Item → Prop where
  | datum {d : Datum} : Item.Bound (.datum d)
  | closure {serial : Nat} {binder body : Expr} {frame : List (Param × Item)} :
      check (binder.asParam?.toList ++ frame.map Prod.fst) body = .ok () → Frame.Bound frame →
      Item.Bound (.closure serial binder body frame)

/-- A frame of such items. -/
inductive Frame.Bound : List (Param × Item) → Prop where
  | nil : Frame.Bound []
  | cons {p : Param} {i : Item} {frame : List (Param × Item)} :
      Item.Bound i → Frame.Bound frame → Frame.Bound ((p, i) :: frame)

end

/-- A parameter of the frame is found. -/
lemma Frame.Bound.lookup {frame : Frame} (h : Frame.Bound frame) {p : Param}
    (mem : p ∈ frame.map Prod.fst) : ∃ i, List.lookup p frame = some i ∧ i.Bound := by
  induction frame with
  | nil => cases mem
  | cons entry frame ih =>
      cases h with
      | @cons q i _ hi hframe =>
          by_cases hq : p = q
          · subst hq
            exact ⟨i, List.lookup_cons_self, hi⟩
          · rw [List.lookup_cons, beq_eq_false_iff_ne.mpr hq]
            exact ih hframe ((List.mem_cons.mp mem).resolve_left hq)

/-- What is read from an item is a datum. -/
lemma exists_datum_of_read {props : EvaluationProperties} {name : String} {i j : Item}
    (h : props.read name i = .ok j) : ∃ d, j = .datum d := by
  have habsent : ∀ f, props.absent f = .ok j → ∃ d, j = .datum d := by
    intro f h
    unfold EvaluationProperties.absent at h
    split at h <;> cases h
    exact ⟨_, rfl⟩
  unfold EvaluationProperties.read at h
  split at h
  · exact habsent _ h
  · split_ifs at h
    · split at h
      · cases h
        exact ⟨_, rfl⟩
      · exact habsent _ h
    · split at h
      · cases h
        exact ⟨_, rfl⟩
      · exact habsent _ h

/-! ## Agreement -/

/-- Equal computations, all of whose results satisfy `P`. -/
structure Run.Agree {α : Type} (P : α → Prop) (m m' : Run α) : Prop where
  eq : m = m'
  yields : ∀ (w w' : World) (a : α), m.run w = (.ok a, w') → P a

namespace Run.Agree

variable {α β : Type} {P : α → Prop} {Q : β → Prop}

lemma pure {a : α} (h : P a) : Run.Agree P (Pure.pure a) (Pure.pure a) :=
  ⟨rfl, fun _ _ _ hrun => by cases hrun; exact h⟩

lemma throw (f : Fault) : Run.Agree P (MonadExcept.throw f) (MonadExcept.throw f) :=
  ⟨rfl, fun _ _ _ hrun => by cases hrun⟩

/-- Computations that agree go on in agreement. -/
lemma bind {m m' : Run α} {k k' : α → Run β} (h : Run.Agree P m m')
    (hk : ∀ a, P a → Run.Agree Q (k a) (k' a)) : Run.Agree Q (m >>= k) (m' >>= k') := by
  obtain ⟨rfl, hyields⟩ := h
  constructor
  · funext w
    show (m >>= k).run w = (m >>= k').run w
    rw [Run.run_bind, Run.run_bind]
    cases hm : m.run w with
    | mk r w' =>
        cases r with
        | ok a => exact congrArg (fun n : Run β => n.run w') (hk a (hyields _ _ _ hm)).eq
        | error f => rfl
  · intro w w'' b hrun
    rw [Run.run_bind] at hrun
    cases hm : m.run w with
    | mk r w' =>
        rw [hm] at hrun
        cases r with
        | ok a => exact (hk a (hyields _ _ _ hm)).yields w' w'' b hrun
        | error f => cases hrun

lemma ofExcept {r : Except Fault α} (h : ∀ a, r = .ok a → P a) :
    Run.Agree P (Run.ofExcept r) (Run.ofExcept r) := by
  cases r with
  | ok a => exact pure (h a rfl)
  | error f => exact throw f

/-- A step that gives nothing to look at. -/
lemma refl (m : Run α) : Run.Agree (fun _ => True) m m := ⟨rfl, fun _ _ _ _ => trivial⟩

lemma observe {m m' : Run α} (h : Run.Agree P m m') :
    Run.Agree (fun r => ∀ a, r = .ok a → P a) m.observe m'.observe := by
  refine ⟨congrArg Run.observe h.eq, fun w w' r hrun a ha => ?_⟩
  subst ha
  cases hm : m.run w with
  | mk r' v =>
      have hobserve : m.observe.run w = (.ok (m.run w).1, (m.run w).2) := rfl
      rw [hobserve, hm] at hrun
      cases hrun
      exact h.yields w v a hm

end Run.Agree

/-! ## Scripts -/

namespace Script

/-! A script gets no items but those in its table, data and what calls answer with. -/

section Table

variable {P : Item → Prop} {table : List Item}

lemma forall_resolve (hdatum : ∀ d, P (.datum d)) (h : ∀ i ∈ table, P i) :
    ∀ a : Arg, P (resolve table a)
  | .datum d => hdatum d
  | .handle n => by
      rw [resolve, List.getD_eq_getElem?_getD]
      cases hn : table[n]? with
      | none => exact hdatum _
      | some i => exact h i (List.mem_of_getElem? hn)

lemma forall_present (h : ∀ i ∈ table, P i) {i : Item} (hi : P i) :
    ∀ j ∈ (present table i).2, P j := by
  cases i with
  | datum d => exact h
  | closure => exact List.forall_mem_append.mpr ⟨h, List.forall_mem_singleton.mpr hi⟩

lemma forall_presentAll {is : List Item} (his : ∀ i ∈ is, P i) :
    ∀ {table : List Item}, (∀ i ∈ table, P i) → ∀ j ∈ (presentAll table is).2, P j := by
  induction is with
  | nil => exact fun h => h
  | cons i is ih =>
      intro table h
      obtain ⟨hi, his⟩ := List.forall_mem_cons.mp his
      exact ih his (forall_present h hi)

end Table

/-- **A script that gets bound items only calls and gives bound items.** -/
theorem run_agree {apply apply' : Item → Item → Run Item}
    (happly : ∀ f x, f.Bound → x.Bound → Run.Agree Item.Bound (apply f x) (apply' f x)) :
    ∀ (s : Script) {table : List Item}, (∀ i ∈ table, i.Bound) →
      Run.Agree Item.Bound (s.run apply table) (s.run apply' table)
  | answer a, _, h => .pure (forall_resolve (fun _ => .datum) h a)
  | fail f, _, _ => .throw f
  | record tag next, _, h => .bind (.refl _) fun _ _ => run_agree happly next h
  | fresh v next, table, h => by
      refine .bind (P := Item.Bound) ?_ fun i hi => run_agree happly _ (forall_present h hi)
      exact .bind (.refl _) fun _ _ => .pure .datum
  | call f x next, table, h => by
      rw [run, run]
      have hresolve := forall_resolve (fun _ => .datum) h
      refine .bind (.observe (happly _ _ (hresolve f) (hresolve x))) fun r hr => ?_
      cases r with
      | ok i => exact run_agree happly _ (forall_present h (hr i rfl))
      | error e => exact run_agree happly _ h

end Script

/-! ## Evaluation -/

namespace Expr

variable {missing missing' : Param → Run Item} {m : Evaluator} {apply apply' : Item → Item → Run Item}

mutual

/-- **A tree that passed the check finds its parameters** in every frame that holds those in scope. -/
theorem evalOr_agree
    (happly : ∀ f x, f.Bound → x.Bound → Run.Agree Item.Bound (apply f x) (apply' f x))
    {frame : Frame} (hframe : Frame.Bound frame) :
    ∀ e : Expr, check (frame.map Prod.fst) e = .ok () →
      Run.Agree Item.Bound (evalOr missing m apply frame e) (evalOr missing' m apply' frame e)
  | param p, h => by
      rw [check] at h
      split_ifs at h with hmem
      obtain ⟨i, hlookup, hi⟩ := hframe.lookup (List.contains_iff_mem.mp hmem)
      rw [evalOr, evalOr, hlookup]
      exact .pure hi
  | const _, _ => .pure .datum
  | member target _, h =>
      .bind (evalOr_agree happly hframe target h) fun _ _ => .ofExcept fun _ hread => by
        obtain ⟨d, rfl⟩ := exists_datum_of_read hread
        exact .datum
  | call f args _, h => by
      refine .bind (evalOrAll_agree happly hframe args h) fun is his => ?_
      cases f with
      | function r =>
          exact Script.run_agree happly _ (Script.forall_presentAll his fun _ h => nomatch h)
      | value d => exact .throw _
  | compare _ l r, h => by
      obtain ⟨hl, hr⟩ := check_pair.mp h
      refine .bind (evalOr_agree happly hframe l hl) fun a _ => ?_
      refine .bind (evalOr_agree happly hframe r hr) fun b _ => ?_
      exact .bind (.refl _) fun _ _ => .pure .datum
  | and l r, h => by
      obtain ⟨hl, hr⟩ := check_pair.mp h
      refine .bind (evalOr_agree happly hframe l hl) fun a ha => ?_
      split
      · exact evalOr_agree happly hframe r hr
      · exact .pure ha
  | or l r, h => by
      obtain ⟨hl, hr⟩ := check_pair.mp h
      refine .bind (evalOr_agree happly hframe l hl) fun a ha => ?_
      split
      · exact .pure ha
      · exact evalOr_agree happly hframe r hr
  | not e, h => .bind (evalOr_agree happly hframe e h) fun _ _ => .pure .datum
  | cond t y n, h => by
      obtain ⟨ht, h⟩ := check_pair.mp h
      obtain ⟨hy, hn⟩ := check_pair.mp h
      refine .bind (evalOr_agree happly hframe t ht) fun a _ => ?_
      split
      · exact evalOr_agree happly hframe y hy
      · exact evalOr_agree happly hframe n hn
  | lambda _ _, h => .bind (.refl _) fun _ _ => .pure (.closure h hframe)
  | tagged .., h | unknown _, h | raw _, h => by cases h

theorem evalOrAll_agree
    (happly : ∀ f x, f.Bound → x.Bound → Run.Agree Item.Bound (apply f x) (apply' f x))
    {frame : Frame} (hframe : Frame.Bound frame) :
    ∀ es : List Expr, checkAll (frame.map Prod.fst) es = .ok () →
      Run.Agree (fun is => ∀ i ∈ is, i.Bound) (evalOrAll missing m apply frame es)
        (evalOrAll missing' m apply' frame es)
  | [], _ => .pure fun _ h => nomatch h
  | e :: es, h => by
      obtain ⟨he, hes⟩ := check_pair.mp h
      refine .bind (evalOr_agree happly hframe e he) fun i hi => ?_
      refine .bind (evalOrAll_agree happly hframe es hes) fun is his => ?_
      exact .pure (List.forall_mem_cons.mpr ⟨hi, his⟩)

end

end Expr

namespace Evaluator

variable {missing missing' : Param → Run Item} {m : Evaluator}

/-- Entering a function that is bound. -/
lemma enterOr_agree {apply apply' : Item → Item → Run Item}
    (happly : ∀ f x, f.Bound → x.Bound → Run.Agree Item.Bound (apply f x) (apply' f x))
    {binder body : Expr} {frame : Frame} {x : Item} (hframe : Frame.Bound frame)
    (closed : check (binder.asParam?.toList ++ frame.map Prod.fst) body = .ok ()) (hx : x.Bound) :
    Run.Agree Item.Bound (m.enterOr missing apply binder body frame x)
      (m.enterOr missing' apply' binder body frame x) := by
  refine .bind (.refl _) fun _ _ => ?_
  unfold bind
  split
  next p hp =>
    rw [hp] at closed
    exact Expr.evalOr_agree happly (.cons hx hframe) body closed
  next hp =>
    rw [hp] at closed
    exact Expr.evalOr_agree happly hframe body closed

/-- Applying bound items, up to any depth. -/
theorem applyOr_agree (missing missing' : Param → Run Item) (m : Evaluator) (depth : Nat) :
    ∀ f x : Item, f.Bound → x.Bound →
      Run.Agree Item.Bound (m.applyOr missing depth f x) (m.applyOr missing' depth f x) := by
  induction depth with
  | zero =>
      intro f x hf _
      cases hf <;> exact .throw _
  | succ depth ih =>
      intro f x hf hx
      cases hf with
      | datum => exact .throw _
      | closure closed hframe => exact enterOr_agree ih hframe closed hx

end Evaluator

namespace Compiled

/-- **A lambda that compiles finds every parameter**, on any bound entity. -/
theorem callOr_agree {p : Param} {body : Expr} (closed : check [p] body = .ok ())
    (missing missing' : Param → Run Item) (props : EvaluationProperties) (host : Host) {entity : Item}
    (hentity : entity.Bound) :
    Run.Agree Item.Bound (callOr missing ⟨props, .param p, body⟩ host entity)
      (callOr missing' ⟨props, .param p, body⟩ host entity) :=
  Evaluator.enterOr_agree (Evaluator.applyOr_agree missing missing' _ depthLimit) .nil closed hentity

end Compiled

/-! ## Compiling -/

namespace Expr

variable {p : Param} {body : Expr}

/-- Compiling reports the first free reference of the walk. -/
lemma compile_eq_report (proper : body.isProper = true) (props : EvaluationProperties) :
    (lambda (param p) body).compile props =
      (do report ((scopedWalk [] (lambda (param p) body)).filterMap freeReference)
          return ⟨props, param p, body⟩) := by
  rw [filterMap_scopedWalk_lambda, ← check_eq_report_scopedWalk proper]
  rfl

/-- The free parameters are those of the walk's free references. -/
lemma freeParams_eq_eraseDups (proper : body.isProper = true) :
    freeParams (param p) body =
      .ok ((scopedWalk [] (lambda (param p) body)).filterMap freeReference).eraseDups := by
  rw [filterMap_scopedWalk_lambda]
  simp only [freeParams, hashable, asParam?, Option.toList_some]
  rw [collectFree_eq_filterMap [p] body proper]
  rfl

/-- A leaf takes a lambda without free parameters, and no other. -/
lemma ofExpr_iff (proper : body.isProper = true) :
    (∃ s, Spec.ofExpr (lambda (param p) body) = .ok s) ↔ freeParams (param p) body = .ok [] := by
  obtain ⟨free, hfree⟩ : ∃ free, freeParams (param p) body = .ok free :=
    ⟨_, freeParams_eq_eraseDups proper⟩
  rw [Spec.ofExpr, hfree]
  cases free with
  | nil => exact ⟨fun _ => rfl, fun _ => ⟨_, rfl⟩⟩
  | cons q free => exact ⟨fun ⟨_, h⟩ => (nomatch h), fun h => (nomatch h)⟩

/-- **The analyses of scopes agree, and look-ups do not fail.**  A lambda compiles exactly if it has no
free parameters, which is when a leaf takes it.  If it does not compile, the error names the first free
reference of the walk.  If it does, then whatever were done about a parameter that is not found, the
same would happen on every bound entity and in every later application of bound items; and what comes
out is bound. -/
theorem compile_iff_closed (proper : body.isProper = true) (props : EvaluationProperties) :
    walk (lambda (param p) body) =
        .ok ((scopedWalk [] (lambda (param p) body)).map Prod.snd) ∧
      ∃ free, freeParams (param p) body = .ok free ∧
        ((∃ c, (lambda (param p) body).compile props = .ok c) ↔ free = []) ∧
        ((∃ s, Spec.ofExpr (lambda (param p) body) = .ok s) ↔ free = []) ∧
        (∀ e, (lambda (param p) body).compile props = .error e → ∃ q ∈ free,
          e = .unbound (.reference q) ∧
          (scopedWalk [] (lambda (param p) body)).findSome? freeReference = some q) ∧
        ∀ c, (lambda (param p) body).compile props = .ok c →
          ∀ (missing : Param → Run Item) (host : Host),
            (∀ entity, entity.Bound →
              Run.Agree Item.Bound (c.callOr missing host entity) (c.call host entity)) ∧
            ∀ depth f x, f.Bound → x.Bound →
              Run.Agree Item.Bound ((c.evaluator host).applyOr missing depth f x)
                ((c.evaluator host).apply depth f x) := by
  have hwalk : walk (lambda (param p) body) =
      .ok ((scopedWalk [] (lambda (param p) body)).map Prod.snd) := by
    rw [walk_eq_preorder]
    exact preorder_eq_scopedWalk [] _ proper
  have hfree := freeParams_eq_eraseDups (p := p) proper
  have hcompile := compile_eq_report (p := p) proper props
  have hleaf := ofExpr_iff (p := p) proper
  rw [hfree, Except.ok.injEq] at hleaf
  have hfirst := List.head?_filterMap (f := freeReference)
    (l := scopedWalk [] (lambda (param p) body))
  refine ⟨hwalk, _, hfree, ?_, hleaf, ?_, ?_⟩
  · rw [hcompile]
    cases hreferences : (scopedWalk [] (lambda (param p) body)).filterMap freeReference with
    | nil => exact ⟨fun _ => rfl, fun _ => ⟨_, rfl⟩⟩
    | cons q qs =>
        rw [List.eraseDups_cons]
        exact ⟨fun ⟨_, h⟩ => (nomatch h), fun h => (nomatch h)⟩
  · intro e he
    rw [hcompile] at he
    cases hreferences : (scopedWalk [] (lambda (param p) body)).filterMap freeReference with
    | nil =>
        rw [hreferences] at he
        cases he
    | cons q qs =>
        rw [hreferences] at he hfirst
        cases he
        refine ⟨q, ?_, rfl, hfirst.symm⟩
        rw [List.eraseDups_cons]
        exact List.mem_cons_self
  · intro c hc missing host
    have hchecked : check [p] body = .ok () := by
      obtain ⟨_, hchecked, -⟩ := bind_eq_ok.mp hc
      exact hchecked
    obtain rfl := Compiled.eq_of_compile hc
    constructor
    · intro entity hentity
      rw [← Compiled.callOr_unbound]
      exact Compiled.callOr_agree hchecked missing unbound props host hentity
    · intro depth f x hf hx
      rw [← Evaluator.applyOr_unbound]
      exact Evaluator.applyOr_agree missing unbound _ depth f x hf hx

/-- A function over `q` that answers with `r`, applied to `a`. -/
def applied (q r a : Param) : Expr :=
  call (.function ⟨"apply", "apply", "<function apply at 0x?>"⟩) [lambda (param q) (param r), param a]
    none

/-- A nested lambda over the outer parameter shadows it.  Over another parameter it binds only its own
body, and the reference beside it is free. -/
theorem compile_iff_closed_applied :
    (applied ⟨1, "p"⟩ ⟨1, "p"⟩ ⟨1, "p"⟩).isProper = true ∧
      (∀ (missing : Param → Run Item) (host : Host) (d : Datum),
        (Compiled.callOr missing ⟨.default, param ⟨1, "p"⟩, applied ⟨1, "p"⟩ ⟨1, "p"⟩ ⟨1, "p"⟩⟩ host
          (.datum d)) = Compiled.call ⟨.default, param ⟨1, "p"⟩,
            applied ⟨1, "p"⟩ ⟨1, "p"⟩ ⟨1, "p"⟩⟩ host (.datum d)) ∧
      (applied ⟨2, "q"⟩ ⟨2, "q"⟩ ⟨2, "q"⟩).isProper = true ∧
      freeParams (param ⟨1, "p"⟩) (applied ⟨2, "q"⟩ ⟨2, "q"⟩ ⟨2, "q"⟩) = .ok [⟨2, "q"⟩] ∧
      ¬ ∃ c, (lambda (param ⟨1, "p"⟩) (applied ⟨2, "q"⟩ ⟨2, "q"⟩ ⟨2, "q"⟩)).compile .default =
        .ok c := by
  have shadowing : (applied ⟨1, "p"⟩ ⟨1, "p"⟩ ⟨1, "p"⟩).isProper = true := rfl
  have proper : (applied ⟨2, "q"⟩ ⟨2, "q"⟩ ⟨2, "q"⟩).isProper = true := rfl
  obtain ⟨-, _, -, -, -, -, hbound⟩ :=
    compile_iff_closed (p := ⟨1, "p"⟩) shadowing EvaluationProperties.default
  obtain ⟨-, free, hfree, hclosed, -⟩ :=
    compile_iff_closed (p := ⟨1, "p"⟩) proper EvaluationProperties.default
  have hq : freeParams (param ⟨1, "p"⟩) (applied ⟨2, "q"⟩ ⟨2, "q"⟩ ⟨2, "q"⟩) =
      .ok [⟨2, "q"⟩] := rfl
  refine ⟨shadowing, fun missing host d => ?_, proper, hq, fun h => ?_⟩
  · exact ((hbound _ rfl missing host).1 (.datum d) .datum).eq
  · have hnil := hclosed.mp h
    rw [hfree, hnil] at hq
    cases hq

end Expr

end Criteria
