import Criteria.Mongo.FromLambda
import Criteria.Proofs.Eval.Quiet

/-!
# Document filters keep the meaning of criteria

A document store selects documents by a predicate on written filters.  Of the connectives it promises
what `Matching` says; what it makes of a test of a single field is its own affair.

**Filters.**
* `selects_both`, `selects_either`, `selects_complement` — the connectives as the translation uses them,
  with everything that they leave out.

**Criteria.**
* `Expr.conditions` — the comparisons and bare members of a condition.
* `isQuiet_of_accepted` — what can be translated only looks at the entity.
* **`ofLambda_faithful`** — if the store agrees with evaluation on those, it agrees with evaluation on
  the whole condition.
-/

namespace Criteria.Mongo

/-- What a predicate on written filters must satisfy to be a way of matching documents. -/
structure Matching (selects : Value → Bool) : Prop where
  everything : selects (.map []) = true
  nothing : selects (.map [(.str "$expr", .bool false)]) = false
  and : ∀ fs : List Value, selects (.map [(.str "$and", .list fs)]) = fs.all selects
  or : ∀ fs : List Value, selects (.map [(.str "$or", .list fs)]) = fs.any selects
  nor : ∀ fs : List Value, selects (.map [(.str "$nor", .list fs)]) = !fs.any selects

/-! ## Filters -/

namespace Filter

variable {selects : Value → Bool}

lemma selects_both (matching : Matching selects) (l r : Filter) :
    selects (l.both r).document = (selects l.document && selects r.document) := by
  have hall : selects (and l r).document = (selects l.document && selects r.document) := by
    rw [document, matching.and, List.all_cons, List.all_cons, List.all_nil, Bool.and_true]
  unfold both
  split
  · rw [show everything.document = .map [] from rfl, matching.everything, Bool.true_and]
  · rw [show everything.document = .map [] from rfl, matching.everything, Bool.and_true]
  · exact hall

lemma selects_either (matching : Matching selects) (l r : Filter) :
    selects (l.either r).document = (selects l.document || selects r.document) := by
  have hany : selects (or l r).document = (selects l.document || selects r.document) := by
    rw [document, matching.or, List.any_cons, List.any_cons, List.any_nil, Bool.or_false]
  unfold either
  split
  · rw [show everything.document = .map [] from rfl, matching.everything, Bool.true_or]
  · rw [show everything.document = .map [] from rfl, matching.everything, Bool.or_true]
  · exact hany

lemma selects_complement (matching : Matching selects) (f : Filter) :
    selects f.complement.document = !selects f.document := by
  unfold complement
  split
  · rw [document, document, matching.nothing, matching.everything]
    rfl
  · rw [document, matching.nor, List.any_cons, List.any_nil, Bool.or_false]

end Filter

end Criteria.Mongo

namespace Criteria.Expr

/-- The comparisons, bare members and other conditions that connectives join. -/
def conditions : Expr → List Expr
  | and l r | or l r => l.conditions ++ r.conditions
  | not e => e.conditions
  | const _ => []
  | e => [e]

end Criteria.Expr

namespace Criteria.Mongo

/-! ## Criteria -/

/-- A path of accesses only looks if it starts where evaluation only looks. -/
lemma isQuiet_of_accessPath : ∀ {e : Expr}, (accessPath e).2.isQuiet = true → e.isQuiet = true
  | .member target _, h => isQuiet_of_accessPath (e := target) h
  | .tagged .., _ => rfl
  | .param _, h | .const _, h | .call .., h | .compare .., h | .and .., h | .or .., h | .not _, h
  | .cond .., h | .lambda .., h | .unknown _, h | .raw _, h => h

/-- What is one object with a binder is no call and no function. -/
lemma isQuiet_of_sameObject {e binder : Expr} (h : e.sameObject binder = true) : e.isQuiet = true := by
  cases e with
  | param | unknown | raw => rfl
  | _ => cases h

lemma isQuiet_of_fieldPath {binder e : Expr} {path : String} (h : fieldPath binder e = .ok path) :
    e.isQuiet = true := by
  rw [fieldPath] at h
  split_ifs at h with hstart
  exact isQuiet_of_accessPath (isQuiet_of_sameObject hstart)

/-- A constant only looks, whatever its class. -/
lemma isQuiet_of_asConstant? {e : Expr} {d : Datum} (h : e.asConstant? = some d) :
    e.isQuiet = true := by
  cases e with
  | const | unknown => rfl
  | _ => cases h

/-- A condition that can be translated only looks. -/
lemma isQuiet_of_accepted {options : Options} {binder : Expr} : ∀ {e : Expr} {f : Filter},
    filterOf options binder e = .ok f → e.isQuiet = true
  | .const _, _, _ => rfl
  | .member target name, _, h => by
      obtain ⟨path, hpath, -⟩ := bind_eq_ok.mp h
      exact isQuiet_of_fieldPath hpath
  | .compare op l r, _, h => by
      rw [filterOf] at h
      unfold comparison at h
      split at h
      next hconstant =>
        obtain ⟨path, hpath, -⟩ := bind_eq_ok.mp h
        rw [Expr.isQuiet, isQuiet_of_fieldPath hpath, isQuiet_of_asConstant? hconstant]
        rfl
      next => cases h
  | .and l r, _, h | .or l r, _, h => by
      obtain ⟨f, hl, h⟩ := bind_eq_ok.mp h
      obtain ⟨g, hr, -⟩ := bind_eq_ok.mp h
      rw [Expr.isQuiet, isQuiet_of_accepted hl, isQuiet_of_accepted hr]
      rfl
  | .not e, _, h => by
      obtain ⟨f, he, -⟩ := bind_eq_ok.mp h
      exact isQuiet_of_accepted (e := e) he
  | .param _, _, h | .call .., _, h | .cond .., _, h | .lambda .., _, h | .tagged .., _, h
  | .unknown _, _, h | .raw _, _, h => by cases h

section Evaluation

variable {selects : Value → Bool} {options : Options} {binder : Expr}
  {props : EvaluationProperties} {frame : Frame}

/-- **The filter of a condition selects what satisfies it**, if the filters of its comparisons and
members do.  The operand that evaluation skips does not matter to the filter either. -/
theorem selects_document (matching : Matching selects) : ∀ {e : Expr} {f : Filter} {i : Item},
    filterOf options binder e = .ok f → e.value props frame = .ok i →
      (∀ leaf ∈ e.conditions, ∀ g j, filterOf options binder leaf = .ok g →
        leaf.value props frame = .ok j → selects g.document = j.truthy) →
      selects f.document = i.truthy
  | .const d, f, i, hf, hi, _ => by
      cases hi
      rw [filterOf] at hf
      split at hf
      next hd =>
        cases hf
        rw [Item.truthy, hd]
        exact matching.everything
      next hd =>
        cases hf
        rw [Item.truthy, hd]
        exact matching.nothing
      next => cases hf
  | .member .., f, i, hf, hi, agrees | .compare .., f, i, hf, hi, agrees =>
      agrees _ (List.mem_singleton_self _) f i hf hi
  | .and l r, f, i, hf, hi, agrees => by
      obtain ⟨g, hg, hf⟩ := bind_eq_ok.mp hf
      obtain ⟨k, hk, hf⟩ := bind_eq_ok.mp hf
      cases hf
      obtain ⟨a, ha, hi⟩ := bind_eq_ok.mp hi
      obtain ⟨agreesLeft, agreesRight⟩ := List.forall_mem_append.mp agrees
      rw [Filter.selects_both matching, selects_document matching hg ha agreesLeft]
      split at hi
      next htrue => rw [selects_document matching hk hi agreesRight, htrue, Bool.true_and]
      next hfalse =>
        cases hi
        rw [Bool.not_eq_true] at hfalse
        rw [hfalse, Bool.false_and]
  | .or l r, f, i, hf, hi, agrees => by
      obtain ⟨g, hg, hf⟩ := bind_eq_ok.mp hf
      obtain ⟨k, hk, hf⟩ := bind_eq_ok.mp hf
      cases hf
      obtain ⟨a, ha, hi⟩ := bind_eq_ok.mp hi
      obtain ⟨agreesLeft, agreesRight⟩ := List.forall_mem_append.mp agrees
      rw [Filter.selects_either matching, selects_document matching hg ha agreesLeft]
      split at hi
      next htrue =>
        cases hi
        rw [htrue, Bool.true_or]
      next hfalse =>
        rw [Bool.not_eq_true] at hfalse
        rw [selects_document matching hk hi agreesRight, hfalse, Bool.false_or]
  | .not e, f, i, hf, hi, agrees => by
      obtain ⟨g, hg, hf⟩ := bind_eq_ok.mp hf
      cases hf
      obtain ⟨a, ha, hi⟩ := bind_eq_ok.mp hi
      cases hi
      rw [Filter.selects_complement matching, selects_document matching hg ha agrees]
      rfl
  | .param _, _, _, hf, _, _ | .call .., _, _, hf, _, _ | .cond .., _, _, hf, _, _
  | .lambda .., _, _, hf, _, _ | .tagged .., _, _, hf, _, _ | .unknown _, _, _, hf, _, _
  | .raw _, _, _, hf, _, _ => by cases hf

end Evaluation

/-- **Document filters keep the meaning of criteria.**  Let a way of matching documents agree with
evaluation on the comparisons and bare members of a lambda, as far as these evaluate without a fault.
Then it agrees with evaluation on the lambda, if that is accepted, compiles and evaluates without a
fault. -/
theorem ofLambda_faithful {selects : Value → Bool} (matching : Matching selects)
    {options : Options} {props : EvaluationProperties} {host : Host} {entity : Item} {l : Lambda}
    (agrees : ∀ e ∈ l.body.conditions, ∀ g, filterOf (options.shared l.body) l.binder e = .ok g →
      ∀ w j w', (Compiled.call ⟨props, l.binder, e⟩ host entity).run w = (.ok j, w') →
        selects g.document = j.truthy)
    {f : Filter} (accepted : Filter.ofLambda options l = .ok f)
    {c : Compiled} (compiled : l.toExpr.compile props = .ok c)
    {w w' : World} {i : Item} (evaluated : (c.call host entity).run w = (.ok i, w')) :
    selects f.document = i.truthy := by
  obtain rfl := Compiled.eq_of_compile compiled
  rw [Compiled.call_quiet (isQuiet_of_accepted accepted), Prod.mk.injEq] at evaluated
  obtain ⟨_, hbinder, hbody⟩ := bind_eq_ok.mp evaluated.1
  refine selects_document matching accepted hbody fun leaf hleaf g j hg hj => ?_
  refine agrees leaf hleaf g hg w j w ?_
  rw [Compiled.call_quiet (isQuiet_of_accepted hg), Prod.mk.injEq]
  exact ⟨bind_eq_ok.mpr ⟨_, hbinder, hj⟩, rfl⟩

/-! ## Stores

Whatever a store makes of the tests of fields, there is a way of matching that goes with it.
-/

mutual

/-- The matching that reads the connectives as promised and leaves the tests of fields to `test`. -/
def selectsBy (test : String → Value → Bool) : Value → Bool
  | .map [] => true
  | .map [(.str "$and", .list fs)] => allBy test fs
  | .map [(.str "$or", .list fs)] => anyBy test fs
  | .map [(.str "$nor", .list fs)] => !anyBy test fs
  | .map [(.str "$expr", v)] => v.truthy
  | .map [(.str path, v)] => test path v
  | _ => false
termination_by structural v => v

def allBy (test : String → Value → Bool) : List Value → Bool
  | [] => true
  | f :: fs => selectsBy test f && allBy test fs
termination_by structural fs => fs

def anyBy (test : String → Value → Bool) : List Value → Bool
  | [] => false
  | f :: fs => selectsBy test f || anyBy test fs
termination_by structural fs => fs

end

section Stores

variable (test : String → Value → Bool)

lemma allBy_eq (fs : List Value) : allBy test fs = fs.all (selectsBy test) := by
  induction fs with
  | nil => rfl
  | cons f fs ih => rw [allBy, ih, List.all_cons]

lemma anyBy_eq (fs : List Value) : anyBy test fs = fs.any (selectsBy test) := by
  induction fs with
  | nil => rfl
  | cons f fs ih => rw [anyBy, ih, List.any_cons]

theorem matching_selectsBy : Matching (selectsBy test) where
  everything := rfl
  nothing := rfl
  and := allBy_eq test
  or := anyBy_eq test
  nor fs := congrArg Bool.not (anyBy_eq test fs)

end Stores

/-- The tests that a document with an age of 20 and a set flag passes. -/
def adultTests : String → Value → Bool
  | "active", .bool b => b
  | "age", .map [(.str "$gte", .int n)] => n ≤ 20
  | _, _ => false

/-- A condition that a constant makes independent of the age. -/
def inactive : Lambda :=
  ⟨.param ⟨1, "e"⟩, .and
    (.or (.compare .ge (.member (.param ⟨1, "e"⟩) "age") (.const ⟨.int 18, ⟨0, []⟩⟩))
      (.const ⟨.bool true, ⟨0, []⟩⟩))
    (.not (.member (.param ⟨1, "e"⟩) "active"))⟩

/-- The document as an entity. -/
def adult : Item :=
  .datum ⟨.map [(.str "age", .int 20), (.str "active", .bool true)], ⟨2, []⟩⟩

/-- The store and evaluation agree that the adult is not inactive. -/
theorem ofLambda_faithful_inactive :
    Matching (selectsBy adultTests) ∧
      ∃ f i, Filter.ofLambda .default inactive = .ok f ∧
        inactive.toExpr.compile .default = .ok ⟨.default, inactive.binder, inactive.body⟩ ∧
        (Compiled.call ⟨.default, inactive.binder, inactive.body⟩ Standard.host adult).run ⟨[], 3⟩ =
          (.ok i, ⟨[], 3⟩) ∧
        selectsBy adultTests f.document = i.truthy := by
  have accepted : Filter.ofLambda .default inactive =
      .ok (.nor (.field "active" (.equals (.bool true)))) := rfl
  have compiled : inactive.toExpr.compile .default =
      .ok ⟨.default, inactive.binder, inactive.body⟩ := rfl
  have evaluated : (Compiled.call ⟨.default, inactive.binder, inactive.body⟩ Standard.host
      adult).run ⟨[], 3⟩ = (.ok (.ofBool false), ⟨[], 3⟩) := rfl
  refine ⟨matching_selectsBy adultTests, _, _, accepted, compiled, evaluated, ?_⟩
  refine ofLambda_faithful (matching_selectsBy adultTests) ?_ accepted compiled evaluated
  intro e he g hg w j w' hj
  rw [show inactive.body.conditions = [_, _] from rfl, List.mem_pair] at he
  obtain rfl | rfl := he
  · cases hg
    cases hj
    rfl
  · cases hg
    cases hj
    rfl

end Criteria.Mongo
