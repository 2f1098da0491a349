import Criteria.Eval.Standard
import Criteria.Proofs.Eval.Lookup
import Mathlib

/-!
# Lenient reading only fills in what is absent

An absent member is a fault under the strict policy and `none` under the lenient one.  The two runs of a
lambda go together until the strict one meets such a fault, and then the strict run is lost: nothing in
evaluation goes on after a fault, and the functions that the tree calls are assumed not to either.

**Faults that are passed on.**
* `Script.EndsIn`, `Script.PassesFaults`, `Host.PassesFaults` — scripts, and the functions of a host, that
  fail with whatever a called function fails with.
* `run_of_endsIn` — such a script ends in that fault, after any clearing up.
* **`host_passesFaults`** — the standard functions are of this sort.

**Two runs.**
* `Item.Calls` — what the functions among an item and its parts call.
* `Run.Follows` — the second run does what the first one does, unless that ends for want of something.
  It goes through every step of evaluation (`eval_follows`), through scripts (`run_follows`) and through
  applications up to any depth (`apply_follows`).
* **`call_lenient`** — compiled lambdas under the two policies.
-/

namespace Criteria

/-- Whether the fault says that an attribute or a key is missing. -/
def Fault.isAbsence (f : Fault) : Bool := f.kind = .attribute ∨ f.kind = .key

/-! ## Faults that are passed on -/

namespace Script

/-- The script ends in the fault `f`.  Before that it may record items and make objects. -/
def EndsIn (f : Fault) : Script → Prop
  | answer _ | call .. => False
  | fail g => g = f
  | record _ next => next.EndsIn f
  | fresh _ next => ∀ a, (next a).EndsIn f

/-- What a called function fails with, the script fails with as well. -/
def PassesFaults : Script → Prop
  | answer _ | fail _ => True
  | record _ next => next.PassesFaults
  | fresh _ next => ∀ a, (next a).PassesFaults
  | call _ _ next => (∀ f, (next (.error f)).EndsIn f) ∧ ∀ a, (next (.ok a)).PassesFaults

/-- A script that calls nothing passes every fault on. -/
lemma EndsIn.passesFaults {f : Fault} : ∀ {s : Script}, s.EndsIn f → s.PassesFaults
  | fail _, _ => trivial
  | record _ next, h => passesFaults (s := next) h
  | fresh _ _, h => fun a => passesFaults (h a)

/-- **A script that ends in a fault** does so wherever it is run. -/
theorem run_of_endsIn (apply : Item → Item → Run Item) {f : Fault} :
    ∀ (s : Script) (table : List Item), s.EndsIn f → ∀ w : World,
      ∃ w', (s.run apply table).run w = (.error f, w')
  | fail _, _, rfl, w => ⟨w, rfl⟩
  | record tag next, table, h, w => by
      rw [run, Run.run_bind]
      exact run_of_endsIn apply next table h _
  | fresh v next, table, h, w => by
      rw [run, Run.run_bind]
      exact run_of_endsIn apply _ _ (h _) _

end Script

/-- The functions under `keys` pass faults on. -/
def Host.PassesFaults (host : Host) (keys : List String) : Prop :=
  ∀ key ∈ keys, ∀ args, (host key args).PassesFaults

namespace Standard

open Script (PassesFaults)

lemma check_passesFaults {α : Type} (r : Except Fault α) {next : α → Script}
    (h : ∀ a, (next a).PassesFaults) : (check r next).PassesFaults := by
  cases r with
  | ok a => exact h a
  | error f => trivial

lemma withArguments_passesFaults (function : String) (names : List String) (args : List Arg)
    {body : List Arg → Script} (h : (body args).PassesFaults) :
    (withArguments function names args body).PassesFaults := by
  unfold withArguments
  split_ifs
  · trivial
  · trivial
  · exact h

lemma foldCalls_passesFaults (f : Arg) (step : Nat → Bool → Except Arg Nat) {finish : Nat → Script}
    (h : ∀ n, (finish n).PassesFaults) (items : List Datum) :
    ∀ n, (foldCalls f step finish n items).PassesFaults := by
  induction items with
  | nil => exact h
  | cons x items ih =>
      refine fun n => ⟨fun _ => rfl, fun a => ?_⟩
      dsimp only
      split
      · trivial
      · exact ih _

lemma add_passesFaults (args : List Arg) : (add args).PassesFaults := by
  unfold add
  split
  · split
    · trivial
    · exact check_passesFaults _ fun _ _ => trivial
  · trivial
  · trivial

lemma search_passesFaults (decisive : Bool) (args : List Arg) :
    (search decisive args).PassesFaults := by
  unfold search
  split
  next xs f =>
    refine check_passesFaults _ fun ds => foldCalls_passesFaults f _ (fun n => ?_) ds 0
    trivial
  next => trivial

lemma countOf_passesFaults (args : List Arg) : (countOf args).PassesFaults := by
  unfold countOf
  split
  next xs f =>
    refine check_passesFaults _ fun ds => foldCalls_passesFaults f _ (fun n => ?_) ds 0
    exact fun _ => trivial
  next => trivial

/-- What the function that was handed in fails with, the application fails with. -/
lemma applyTo_passesFaults (args : List Arg) : (applyTo args).PassesFaults := by
  unfold applyTo
  split
  · exact ⟨fun _ => rfl, fun _ => trivial⟩
  · trivial

lemma evenAge_passesFaults (args : List Arg) : (evenAge args).PassesFaults := by
  unfold evenAge
  split
  · exact check_passesFaults _ fun _ => check_passesFaults _ fun _ => trivial
  · trivial

lemma isActive_passesFaults (args : List Arg) : (isActive args).PassesFaults := by
  unfold isActive
  split
  · split <;> trivial
  · trivial
  · trivial

lemma startsWith_passesFaults (args : List Arg) : (startsWith args).PassesFaults := by
  unfold startsWith
  split
  · trivial
  · split_ifs
    · trivial
    · trivial
    · refine check_passesFaults _ fun first => check_passesFaults _ fun last => ?_
      split
      · trivial
      · exact check_passesFaults _ fun _ => trivial
      · trivial
  · trivial

lemma length_passesFaults (args : List Arg) : (length args).PassesFaults := by
  unfold length
  split
  · exact check_passesFaults _ fun _ _ => trivial
  · trivial
  · trivial

/-- **The standard functions pass faults on.** -/
theorem host_passesFaults (keys : List String) : Host.PassesFaults host keys := by
  intro key _ args
  fun_cases host key args
  · exact withArguments_passesFaults _ _ _ trivial
  · exact withArguments_passesFaults _ _ _ trivial
  · exact withArguments_passesFaults _ _ _ (add_passesFaults _)
  · exact withArguments_passesFaults _ _ _ (search_passesFaults true _)
  · exact withArguments_passesFaults _ _ _ (search_passesFaults false _)
  · exact withArguments_passesFaults _ _ _ (countOf_passesFaults _)
  · exact withArguments_passesFaults _ _ _ (applyTo_passesFaults _)
  · trivial
  · trivial
  · exact withArguments_passesFaults _ _ _ (evenAge_passesFaults _)
  · exact withArguments_passesFaults _ _ _ (isActive_passesFaults _)
  · exact withArguments_passesFaults _ _ _ trivial
  · exact startsWith_passesFaults _
  · exact length_passesFaults _
  · trivial

end Standard

/-! ## What items call -/

namespace Expr

mutual

/-- The keys of the functions that the tree calls, those called inside lambdas included. -/
def functions : Expr → List String
  | param _ | const _ | unknown _ | raw _ => []
  | member target _ | tagged target _ _ => target.functions
  | call (.function f) args _ => f.key :: allFunctions args
  | call (.value _) args _ => allFunctions args
  | compare _ l r | and l r | or l r => l.functions ++ r.functions
  | not e => e.functions
  | cond test yes no => test.functions ++ (yes.functions ++ no.functions)
  | lambda _ body => body.functions

def allFunctions : List Expr → List String
  | [] => []
  | e :: es => e.functions ++ allFunctions es

end

end Expr

mutual

/-- An item whose functions call nothing but `keys`. -/
inductive Item.Calls (keys : List String) : Item → Prop where
  | datum (d : Datum) : Item.Calls keys (.datum d)
  | closure {serial : Nat} {binder body : Expr} {frame : List (Param × Item)} :
      body.functions ⊆ keys → Frame.Calls keys frame →
      Item.Calls keys (.closure serial binder body frame)

/-- A frame of such items. -/
inductive Frame.Calls (keys : List String) : List (Param × Item) → Prop where
  | nil : Frame.Calls keys []
  | cons {p : Param} {i : Item} {frame : List (Param × Item)} :
      Item.Calls keys i → Frame.Calls keys frame → Frame.Calls keys ((p, i) :: frame)

end

lemma Frame.Calls.lookup {keys : List String} {frame : Frame} (h : Frame.Calls keys frame)
    {p : Param} {i : Item} (found : List.lookup p frame = some i) : i.Calls keys := by
  induction frame with
  | nil => cases found
  | cons entry frame ih =>
      cases h with
      | @cons q j _ hj hframe =>
          rw [List.lookup_cons] at found
          split at found
          · cases found
            exact hj
          · exact ih hframe found

/-! ## Runs that go together -/

/-- The second run does what the first one does, with a result that satisfies `P`, unless the first one
ends for want of an attribute or a key. -/
def Run.Follows {α : Type} (P : α → Prop) (m m' : Run α) : Prop :=
  ∀ w : World, (∃ f w', m.run w = (.error f, w') ∧ f.isAbsence = true) ∨
    m'.run w = m.run w ∧ ∀ a w', m.run w = (.ok a, w') → P a

namespace Run.Follows

variable {α β : Type} {P : α → Prop} {Q : β → Prop}

/-- A run follows itself. -/
lemma self {m : Run α} (h : ∀ w a w', m.run w = (.ok a, w') → P a) : Run.Follows P m m :=
  fun w => .inr ⟨rfl, h w⟩

lemma pure {a : α} (h : P a) : Run.Follows P (Pure.pure a) (Pure.pure a) :=
  self fun _ _ _ hrun => by cases hrun; exact h

lemma throw (f : Fault) : Run.Follows P (MonadExcept.throw f) (MonadExcept.throw f) :=
  self fun _ _ _ hrun => by cases hrun

/-- A step that gives nothing to look at. -/
lemma refl (m : Run α) : Run.Follows (fun _ => True) m m := self fun _ _ _ _ => trivial

/-- What is lost in the first step stays lost. -/
lemma bind {m m' : Run α} {k k' : α → Run β} (h : Run.Follows P m m')
    (hk : ∀ a, P a → Run.Follows Q (k a) (k' a)) : Run.Follows Q (m >>= k) (m' >>= k') := by
  intro w
  rw [Run.run_bind, Run.run_bind]
  obtain ⟨f, w', hm, hf⟩ | ⟨heq, hP⟩ := h w
  · rw [hm]
    exact .inl ⟨f, w', rfl, hf⟩
  · rw [heq]
    cases hm : m.run w with
    | mk r w' =>
        cases r with
        | ok a => exact hk a (hP a w' hm) w'
        | error f => exact .inr ⟨rfl, fun _ _ h => nomatch h⟩

end Run.Follows

/-- Only what is absent is read in two ways. -/
lemma read_follows (mapping : Value) (name : String) (i : Item) {keys : List String} :
    Run.Follows (Item.Calls keys) (Run.ofExcept (EvaluationProperties.read ⟨mapping, .fails⟩ name i))
      (Run.ofExcept (EvaluationProperties.read ⟨mapping, .isNone⟩ name i)) := by
  have absent : ∀ f : Fault, f.isAbsence = true → ∀ r : Except Fault Item,
      Run.Follows (Item.Calls keys) (Run.ofExcept (.error f)) (Run.ofExcept r) :=
    fun f hf r w => .inl ⟨f, w, rfl, hf⟩
  cases i with
  | closure => exact absent _ rfl _
  | datum d =>
      simp only [EvaluationProperties.read]
      split_ifs
      · cases d.lookup? name with
        | none => exact absent _ rfl _
        | some part => exact .pure (.datum part)
      · cases d.attribute? name with
        | none => exact absent _ rfl _
        | some part => exact .pure (.datum part)

/-- Two ways to apply items that call nothing but `keys`, the second of which follows the first. -/
def Item.ApplyFollows (keys : List String) (apply apply' : Item → Item → Run Item) : Prop :=
  ∀ f x, f.Calls keys → x.Calls keys → Run.Follows (Item.Calls keys) (apply f x) (apply' f x)

section Trees

variable {mapping : Value} {host : Host} {keys : List String} {apply apply' : Item → Item → Run Item}

/-- **A script that passes faults on** calls functions in step. -/
theorem Script.run_follows (happly : Item.ApplyFollows keys apply apply') :
    ∀ (s : Script) {table : List Item}, s.PassesFaults → (∀ i ∈ table, i.Calls keys) →
      Run.Follows (Item.Calls keys) (s.run apply table) (s.run apply' table)
  | answer a, _, _, h => .pure (forall_resolve .datum h a)
  | fail f, _, _, _ => .throw f
  | record tag next, _, hs, h => .bind (.refl _) fun _ _ => run_follows happly next hs h
  | fresh v next, table, hs, h => by
      refine .bind (P := Item.Calls keys) ?_ fun i hi => ?_
      · exact .bind (.refl _) fun _ _ => .pure (.datum _)
      · exact run_follows happly _ (hs _) (forall_present h hi)
  | call f x next, table, hs, h => by
      obtain ⟨herror, hok⟩ := hs
      have hresolve := forall_resolve Item.Calls.datum h
      intro w
      have hobserve : ∀ m : Run Item, m.observe.run w = (.ok (m.run w).1, (m.run w).2) := fun _ => rfl
      rw [run, run, Run.run_bind, Run.run_bind, hobserve, hobserve]
      obtain ⟨e, w', hm, he⟩ | ⟨heq, hcalls⟩ := happly _ _ (hresolve f) (hresolve x) w
      · -- the first run is lost, and the script does not save it
        rw [hm]
        obtain ⟨w'', hend⟩ := run_of_endsIn apply _ table (herror e) w'
        exact .inl ⟨e, w'', hend, he⟩
      · rw [heq]
        cases hm : (apply (resolve table f) (resolve table x)).run w with
        | mk r w' =>
            cases r with
            | ok i =>
                exact run_follows happly (next (.ok _)) (hok _)
                  (forall_present h (hcalls i w' hm)) w'
            | error e =>
                exact run_follows happly (next (.error e)) (herror e).passesFaults h w'

namespace Expr

mutual

/-- **A tree evaluates alike under both policies** until a member is absent. -/
theorem eval_follows (passes : host.PassesFaults keys) (happly : Item.ApplyFollows keys apply apply')
    {frame : Frame} (hframe : Frame.Calls keys frame) :
    ∀ e : Expr, e.functions ⊆ keys →
      Run.Follows (Item.Calls keys) (e.eval ⟨⟨mapping, .fails⟩, host⟩ apply frame)
        (e.eval ⟨⟨mapping, .isNone⟩, host⟩ apply' frame)
  | param p, _ => by
      rw [eval, eval]
      split
      next i found => exact .pure (hframe.lookup found)
      next => exact .throw _
  | const d, _ => .pure (.datum d)
  | member target name, h =>
      .bind (eval_follows passes happly hframe target h) fun i _ => read_follows mapping name i
  | call (.function f) args _, h => by
      obtain ⟨hf, hargs⟩ := List.cons_subset.mp h
      refine .bind (evalAll_follows passes happly hframe args hargs) fun is his => ?_
      exact Script.run_follows happly _ (passes f.key hf _)
        (Script.forall_presentAll his fun _ h => nomatch h)
  | call (.value d) args _, h =>
      .bind (evalAll_follows passes happly hframe args h) fun _ _ => .throw _
  | compare op l r, h => by
      obtain ⟨hl, hr⟩ := List.append_subset.mp h
      refine .bind (eval_follows passes happly hframe l hl) fun a _ => ?_
      refine .bind (eval_follows passes happly hframe r hr) fun b _ => ?_
      exact .bind (.refl _) fun _ _ => .pure (.datum _)
  | and l r, h => by
      obtain ⟨hl, hr⟩ := List.append_subset.mp h
      refine .bind (eval_follows passes happly hframe l hl) fun a ha => ?_
      split
      · exact eval_follows passes happly hframe r hr
      · exact .pure ha
  | or l r, h => by
      obtain ⟨hl, hr⟩ := List.append_subset.mp h
      refine .bind (eval_follows passes happly hframe l hl) fun a ha => ?_
      split
      · exact .pure ha
      · exact eval_follows passes happly hframe r hr
  | not e, h => .bind (eval_follows passes happly hframe e h) fun _ _ => .pure (.datum _)
  | cond test yes no, h => by
      obtain ⟨htest, h⟩ := List.append_subset.mp h
      obtain ⟨hyes, hno⟩ := List.append_subset.mp h
      refine .bind (eval_follows passes happly hframe test htest) fun a _ => ?_
      split
      · exact eval_follows passes happly hframe yes hyes
      · exact eval_follows passes happly hframe no hno
  | lambda _ _, h => .bind (.refl _) fun _ _ => .pure (.closure h hframe)
  | tagged .., _ | unknown _, _ | raw _, _ => .throw _

theorem evalAll_follows (passes : host.PassesFaults keys)
    (happly : Item.ApplyFollows keys apply apply') {frame : Frame} (hframe : Frame.Calls keys frame) :
    ∀ es : List Expr, allFunctions es ⊆ keys →
      Run.Follows (fun is => ∀ i ∈ is, i.Calls keys)
        (evalAll ⟨⟨mapping, .fails⟩, host⟩ apply frame es)
        (evalAll ⟨⟨mapping, .isNone⟩, host⟩ apply' frame es)
  | [], _ => .pure fun _ h => nomatch h
  | e :: es, h => by
      obtain ⟨he, hes⟩ := List.append_subset.mp h
      refine .bind (eval_follows passes happly hframe e he) fun i hi => ?_
      refine .bind (evalAll_follows passes happly hframe es hes) fun is his => ?_
      exact .pure (List.forall_mem_cons.mpr ⟨hi, his⟩)

end

end Expr

end Trees

namespace Evaluator

variable {mapping : Value} {host : Host} {keys : List String}

/-- Entering a function under both policies. -/
lemma enter_follows (passes : host.PassesFaults keys) {apply apply' : Item → Item → Run Item}
    (happly : Item.ApplyFollows keys apply apply') (binder : Expr) {body : Expr}
    (hbody : body.functions ⊆ keys) {frame : Frame} (hframe : Frame.Calls keys frame) {x : Item}
    (hx : x.Calls keys) :
    Run.Follows (Item.Calls keys) (enter ⟨⟨mapping, .fails⟩, host⟩ apply binder body frame x)
      (enter ⟨⟨mapping, .isNone⟩, host⟩ apply' binder body frame x) := by
  refine .bind (.refl _) fun _ _ => ?_
  unfold bind
  split
  · exact Expr.eval_follows passes happly (.cons hx hframe) body hbody
  · exact Expr.eval_follows passes happly hframe body hbody

/-- Applying items under both policies, up to any depth. -/
theorem apply_follows (passes : host.PassesFaults keys) (depth : Nat) :
    Item.ApplyFollows keys (apply ⟨⟨mapping, .fails⟩, host⟩ depth)
      (apply ⟨⟨mapping, .isNone⟩, host⟩ depth) := by
  induction depth with
  | zero =>
      intro f x hf _
      cases hf <;> exact .throw _
  | succ depth ih =>
      intro f x hf hx
      cases hf with
      | datum => exact .throw _
      | closure hbody hframe => exact enter_follows passes ih _ hbody hframe hx

end Evaluator

namespace Expr

/-- **Lenient reading only changes what is absent.**  A closed lambda compiles under both policies.  Let
the functions that it calls pass faults on.  Whatever the strict run on a datum ends in, other than the
fault of an attribute or a key that is missing, the lenient run ends in, having recorded the same. -/
theorem call_lenient {p : Param} {body : Expr} (proper : body.isProper = true)
    (closed : freeParams (param p) body = .ok []) (mapping : Value) {host : Host}
    (passes : host.PassesFaults body.functions) :
    ∃ strict lenient,
      (lambda (param p) body).compile ⟨mapping, .fails⟩ = .ok strict ∧
      (lambda (param p) body).compile ⟨mapping, .isNone⟩ = .ok lenient ∧
      ∀ (d : Datum) (w w' : World) (r : Except Fault Item),
        (strict.call host (.datum d)).run w = (r, w') →
        (∀ f, r = .error f → f.kind ≠ .attribute ∧ f.kind ≠ .key) →
        (lenient.call host (.datum d)).run w = (r, w') := by
  have hcheck := (freeParams_eq_nil_iff proper).mp closed
  refine ⟨_, _, compile_of_check hcheck _, compile_of_check hcheck _, ?_⟩
  intro d w w' r hrun present
  have hfollows : Run.Follows (Item.Calls body.functions)
      (Compiled.call ⟨⟨mapping, .fails⟩, param p, body⟩ host (.datum d))
      (Compiled.call ⟨⟨mapping, .isNone⟩, param p, body⟩ host (.datum d)) :=
    Evaluator.enter_follows passes (Evaluator.apply_follows passes depthLimit) (param p)
      (List.Subset.refl _) .nil (.datum d)
  obtain ⟨f, v, habsent, hf⟩ | ⟨heq, -⟩ := hfollows w
  · rw [hrun] at habsent
    obtain ⟨rfl, rfl⟩ := Prod.mk.inj habsent
    obtain ⟨hattribute, hkey⟩ := present f rfl
    have hneither : f.isAbsence = false := decide_eq_false (not_or.mpr ⟨hattribute, hkey⟩)
    rw [hneither] at hf
    cases hf
  · rw [heq, hrun]

/-- Some tag of `p` has a rank above two, which is recorded, or else what `p` does not have. -/
def ranked (p t : Param) : Expr :=
  or (call (.function ⟨"any_of", "any_of", "<function any_of at 0x?>"⟩)
      [member (param p) "tags",
        lambda (param t) (compare .gt
          (call (.function ⟨"trace", "trace", "<function trace at 0x?>"⟩)
            [const ⟨.str "rank", ⟨3, []⟩⟩, member (param t) "rank"] none)
          (const ⟨.int 2, ⟨4, []⟩⟩))] none)
    (member (param p) "absent")

/-- A mapping with one tag of the given rank. -/
def withRank (rank : Value) : Datum :=
  ⟨.map [(.str "tags", .list [.record [("rank", rank)]])], ⟨5, []⟩⟩

/-- With a high rank nobody asks for the absent member; a rank without an order is one fault under both
policies. -/
theorem call_lenient_ranked :
    (ranked ⟨1, "p"⟩ ⟨2, "t"⟩).isProper = true ∧
      freeParams (param ⟨1, "p"⟩) (ranked ⟨1, "p"⟩ ⟨2, "t"⟩) = .ok [] ∧
      Host.PassesFaults Standard.host (ranked ⟨1, "p"⟩ ⟨2, "t"⟩).functions ∧
      ∃ lenient, (lambda (param ⟨1, "p"⟩) (ranked ⟨1, "p"⟩ ⟨2, "t"⟩)).compile ⟨.bool true, .isNone⟩ =
          .ok lenient ∧
        (lenient.call Standard.host (.datum (withRank (.int 3)))).run ⟨[], 6⟩ =
          (.ok (.ofBool true), ⟨[.datum ⟨.str "rank", ⟨3, []⟩⟩], 7⟩) ∧
        (lenient.call Standard.host (.datum (withRank (.str "high")))).run ⟨[], 6⟩ =
          (.error (.unordered ">" "str" "int"), ⟨[.datum ⟨.str "rank", ⟨3, []⟩⟩], 7⟩) := by
  have proper : (ranked ⟨1, "p"⟩ ⟨2, "t"⟩).isProper = true := rfl
  have closed : freeParams (param ⟨1, "p"⟩) (ranked ⟨1, "p"⟩ ⟨2, "t"⟩) = .ok [] := rfl
  have passes := Standard.host_passesFaults (ranked ⟨1, "p"⟩ ⟨2, "t"⟩).functions
  obtain ⟨strict, lenient, hstrict, hlenient, hsame⟩ := call_lenient proper closed (.bool true) passes
  obtain rfl := Compiled.eq_of_compile hstrict
  refine ⟨proper, closed, passes, lenient, hlenient, ?_, ?_⟩
  · exact hsame _ _ _ _ (by cbv) fun _ h => nomatch h
  · refine hsame _ _ _ _ (by cbv) ?_
    rintro _ ⟨⟩
    decide

end Expr

end Criteria
