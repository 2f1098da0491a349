import Criteria.Mongo.FromLambda
import Criteria.Proofs.Eval.Quiet
import Criteria.Sql.FromLambda
import Mathlib.Tactic.SplitIfs

/-!
# Trees with foreign nodes

No traversal knows a foreign node.  What happens to a tree that holds one depends on whether the
traversal comes to it.

**Everywhere.**
* `Expr.hasForeign` — whether a foreign node stands anywhere but in a binder.
* `hasForeign_of_substitute`, `hasForeign_of_check`, `hasForeign_of_operandOf` — substitution, the
  check of the compiler and the clause builder come to every node: what they accept has none.

**Comparisons.**  The filter builder takes comparisons and field paths apart by itself.  In a path an
access of a class of its own is as good as a plain one, and so is such a constant on the right of a
comparison; a path may start at anything, as long as that is the very object that the lambda binds.
* `Expr.hasStray` — whether a foreign node stands anywhere else.
* `Expr.untag` — the condition with plain nodes for those that are as good as plain ones.
* `filterOf_eq_ok_iff` — the filter builder accepts just these foreign nodes, and reads them as plain
  ones.

**`foreign_rejected`** puts the four together.
-/

namespace Criteria.Expr

/-! ## Foreign nodes -/

mutual

/-- Whether a foreign node stands in the tree, other than in the binder of a lambda. -/
def hasForeign : Expr → Bool
  | param _ | const _ => false
  | member target _ => target.hasForeign
  | call _ args _ => anyForeign args
  | compare _ l r | and l r | or l r => l.hasForeign || r.hasForeign
  | not e => e.hasForeign
  | cond test yes no => test.hasForeign || (yes.hasForeign || no.hasForeign)
  | lambda _ body => body.hasForeign
  | tagged .. | unknown _ | raw _ => true

def anyForeign : List Expr → Bool
  | [] => false
  | e :: es => e.hasForeign || anyForeign es

end

/-- Where the path of member accesses that a node is, plain or tagged, starts. -/
def pathStart (e : Expr) : Expr := (Mongo.accessPath e).2

/-- Whether a foreign node stands where the path starts, other than as the object that `binder` is. -/
def hasStrayStart (e binder : Expr) : Bool :=
  !e.pathStart.sameObject binder && e.pathStart.hasForeign

/-- Whether a foreign node stands in the condition, other than in the path of a field, where it is an
access or the object that `binder` is, or as a constant on the right of a comparison. -/
def hasStray : Expr → (binder : Expr) → Bool
  | member target _, binder => target.hasStrayStart binder
  | compare _ l r, binder => l.hasStrayStart binder || (r.asConstant?.isNone && r.hasForeign)
  | and l r, binder | or l r, binder => l.hasStray binder || r.hasStray binder
  | not e, binder => e.hasStray binder
  | e, _ => e.hasForeign

/-- The condition with plain accesses for tagged ones, and with plain constants on the right of its
comparisons. -/
def untag : Expr → Expr
  | member target name | tagged target name _ => member target.untag name
  | compare op l r => compare op l.untag ((r.asConstant?.map const).getD r)
  | and l r => and l.untag r.untag
  | or l r => or l.untag r.untag
  | not e => not e.untag
  | e => e

/-! ## Traversals that come to every node -/

section Accepted

variable {t : Traversal} {image : Param → Expr}

mutual

/-- What can be substituted in has no foreign node. -/
theorem hasForeign_of_substitute :
    ∀ {e : Expr} {s : Substituted}, e.substitute t image = .ok s → e.hasForeign = false
  | param _, _, _ | const _, _, _ => rfl
  | member target _, _, h => by
      obtain ⟨_, htarget, -⟩ := bind_eq_ok.mp h
      exact hasForeign_of_substitute (e := target) htarget
  | call _ args _, _, h => by
      obtain ⟨_, hargs, -⟩ := bind_eq_ok.mp h
      exact (anyForeign_of_substituteAll hargs : anyForeign args = false)
  | compare _ l r, _, h | and l r, _, h | or l r, _, h => by
      obtain ⟨_, hl, h⟩ := bind_eq_ok.mp h
      obtain ⟨_, hr, -⟩ := bind_eq_ok.mp h
      simp [hasForeign, hasForeign_of_substitute hl, hasForeign_of_substitute hr]
  | not e, _, h => by
      obtain ⟨_, he, -⟩ := bind_eq_ok.mp h
      exact hasForeign_of_substitute (e := e) he
  | cond test yes no, _, h => by
      obtain ⟨_, htest, h⟩ := bind_eq_ok.mp h
      obtain ⟨_, hyes, h⟩ := bind_eq_ok.mp h
      obtain ⟨_, hno, -⟩ := bind_eq_ok.mp h
      simp [hasForeign, hasForeign_of_substitute htest, hasForeign_of_substitute hyes,
        hasForeign_of_substitute hno]
  | lambda binder body, _, h => by
      obtain ⟨_, -, h⟩ := bind_eq_ok.mp h
      split at h
      next => cases h
      next =>
        obtain ⟨_, hbody, -⟩ := bind_eq_ok.mp h
        exact hasForeign_of_substitute (e := body) hbody
  | tagged .., _, h | unknown _, _, h | raw _, _, h => by cases h

theorem anyForeign_of_substituteAll : ∀ {es : List Expr} {ss : List Substituted},
    substituteAll t image es = .ok ss → anyForeign es = false
  | [], _, _ => rfl
  | e :: es, _, h => by
      obtain ⟨_, he, h⟩ := bind_eq_ok.mp h
      obtain ⟨_, hes, -⟩ := bind_eq_ok.mp h
      simp [anyForeign, hasForeign_of_substitute he, anyForeign_of_substituteAll hes]

end

mutual

/-- What passes the check of the compiler has no foreign node. -/
theorem hasForeign_of_check :
    ∀ {scope : List Param} {e : Expr}, e.check scope = .ok () → e.hasForeign = false
  | _, param _, _ | _, const _, _ => rfl
  | _, member target _, h => hasForeign_of_check (e := target) h
  | _, call _ args _, h => (anyForeign_of_checkAll h : anyForeign args = false)
  | _, compare _ l r, h | _, and l r, h | _, or l r, h => by
      obtain ⟨_, hl, hr⟩ := bind_eq_ok.mp h
      simp [hasForeign, hasForeign_of_check hl, hasForeign_of_check hr]
  | _, not e, h => hasForeign_of_check (e := e) h
  | _, cond test yes no, h => by
      obtain ⟨_, htest, h⟩ := bind_eq_ok.mp h
      obtain ⟨_, hyes, hno⟩ := bind_eq_ok.mp h
      simp [hasForeign, hasForeign_of_check htest, hasForeign_of_check hyes,
        hasForeign_of_check hno]
  | _, lambda _ body, h => hasForeign_of_check (e := body) h
  | _, tagged .., h | _, unknown _, h | _, raw _, h => by cases h

theorem anyForeign_of_checkAll :
    ∀ {scope : List Param} {es : List Expr}, checkAll scope es = .ok () → anyForeign es = false
  | _, [], _ => rfl
  | _, e :: es, h => by
      obtain ⟨_, he, hes⟩ := bind_eq_ok.mp h
      simp [anyForeign, hasForeign_of_check he, anyForeign_of_checkAll hes]

end

/-- What denotes an operand has no foreign node. -/
theorem hasForeign_of_operandOf {root : Sql.EntityClass} {binder : Expr} :
    ∀ {e : Expr} {o : Sql.Operand}, Sql.operandOf root binder e = .ok o → e.hasForeign = false
  | param _, _, _ | const _, _, _ => rfl
  | member target _, _, h => by
      rw [Sql.operandOf, Sql.memberOperand.eq_def] at h
      split at h
      next => rfl
      next => cases h
  | compare _ l r, _, h => by
      obtain ⟨_, hl, h⟩ := bind_eq_ok.mp h
      obtain ⟨_, hr, -⟩ := bind_eq_ok.mp h
      simp [hasForeign, hasForeign_of_operandOf hl, hasForeign_of_operandOf hr]
  | and l r, _, h | or l r, _, h => by
      obtain ⟨_, hl, h⟩ := bind_eq_ok.mp h
      obtain ⟨_, -, h⟩ := bind_eq_ok.mp h
      obtain ⟨_, hr, -⟩ := bind_eq_ok.mp h
      simp [hasForeign, hasForeign_of_operandOf hl, hasForeign_of_operandOf hr]
  | not e, _, h => by
      obtain ⟨_, he, -⟩ := bind_eq_ok.mp h
      exact hasForeign_of_operandOf (e := e) he
  | cond test yes no, _, h => by
      obtain ⟨_, htest, h⟩ := bind_eq_ok.mp h
      obtain ⟨_, -, h⟩ := bind_eq_ok.mp h
      obtain ⟨_, hyes, h⟩ := bind_eq_ok.mp h
      obtain ⟨_, hno, -⟩ := bind_eq_ok.mp h
      simp [hasForeign, hasForeign_of_operandOf htest, hasForeign_of_operandOf hyes,
        hasForeign_of_operandOf hno]
  | call .., _, h | lambda .., _, h | tagged .., _, h | unknown _, _, h | raw _, _, h => by cases h

end Accepted

end Criteria.Expr

/-! ## Field paths -/

namespace Criteria.Mongo

open Criteria.Expr

lemma isAccess_untag (e : Expr) : isAccess e.untag = isAccess e := by
  cases e <;> rfl

lemma accessPath_untag : ∀ e : Expr,
    accessPath e.untag = ((accessPath e).1, (accessPath e).2.untag)
  | .member target name | .tagged target name _ => by
      simp only [untag, accessPath, accessPath_untag target]
  | .param _ | .const _ | .call .. | .compare .. | .and .. | .or .. | .not _ | .cond ..
  | .lambda .. | .unknown _ | .raw _ => rfl

/-- Leaving tags out changes no object that has an identity. -/
lemma sameObject_untag (e binder : Expr) : e.untag.sameObject binder = e.sameObject binder := by
  cases e <;> rfl

/-- The constant on the right of a comparison stays the same. -/
lemma asConstant?_getD (r : Expr) : ((r.asConstant?.map .const).getD r).asConstant? = r.asConstant? := by
  cases h : r.asConstant? with
  | none => exact h
  | some d => rfl

variable {options : Options} {binder : Expr}

/-- A field path is read if it starts at the object that the lambda binds. -/
lemma fieldPath_eq_ok_iff {e : Expr} {path : String} :
    fieldPath binder e = .ok path ↔
      e.pathStart.sameObject binder = true ∧ path = ".".intercalate (accessPath e).1 := by
  rw [fieldPath, pathStart]
  split_ifs with hstart
  · simp [hstart, eq_comm]
  · simp [hstart]

/-- In a field path a tagged access is as good as a plain one. -/
lemma fieldPath_untag_eq_ok_iff {e : Expr} {path : String} :
    fieldPath binder e = .ok path ↔
      e.hasStrayStart binder = false ∧ fieldPath binder e.untag = .ok path := by
  have hstart : e.untag.pathStart.sameObject binder = e.pathStart.sameObject binder := by
    rw [pathStart, accessPath_untag, sameObject_untag, pathStart]
  rw [fieldPath_eq_ok_iff, fieldPath_eq_ok_iff, hstart, accessPath_untag]
  constructor
  · rintro ⟨hsame, hpath⟩
    exact ⟨by rw [hasStrayStart, hsame]; rfl, hsame, hpath⟩
  · rintro ⟨-, h⟩
    exact h

/-- A comparison is accepted if it compares a field with a constant that fits the test. -/
lemma comparison_eq_ok_iff {op : CompareOp} {l r : Expr} {f : Filter} :
    comparison options binder op l r = .ok f ↔
      isAccess l = true ∧ ∃ d path test, r.asConstant? = some d ∧ fieldPath binder l = .ok path ∧
        fieldTest options op d = .ok test ∧ f = .field path test := by
  rw [comparison.eq_def]
  split
  next d haccess hconstant =>
    rw [bind_eq_ok]
    constructor
    · rintro ⟨path, hpath, h⟩
      split at h
      next test htest =>
        cases h
        exact ⟨haccess, d, path, test, hconstant, hpath, htest, rfl⟩
      next => cases h
    · rintro ⟨-, d', path, test, hconstant', hpath, htest, rfl⟩
      obtain rfl : d = d' := Option.some.inj (hconstant.symm.trans hconstant')
      exact ⟨path, hpath, by rw [htest]; rfl⟩
  next hnone =>
    simp only [reduceCtorEq, false_iff]
    rintro ⟨haccess, d, -, -, hconstant, -⟩
    exact hnone d haccess hconstant

/-- **The filter builder overlooks the foreign nodes in field paths and on the right of comparisons**,
and no others. -/
theorem filterOf_eq_ok_iff : ∀ {e : Expr} {f : Filter},
    filterOf options binder e = .ok f ↔
      e.hasStray binder = false ∧ filterOf options binder e.untag = .ok f
  | .const d, f => by simp [hasStray, hasForeign, untag]
  | .member target name, f => by
      have hpath : ∀ path, fieldPath binder (.member target name) = .ok path ↔
          target.hasStrayStart binder = false ∧
            fieldPath binder (.member target.untag name) = .ok path :=
        fun _ => fieldPath_untag_eq_ok_iff
      simp only [filterOf, untag, hasStray, bind_eq_ok, hpath]
      constructor
      · rintro ⟨path, ⟨hstray, hpath⟩, h⟩
        exact ⟨hstray, path, hpath, h⟩
      · rintro ⟨hstray, path, hpath, h⟩
        exact ⟨path, ⟨hstray, hpath⟩, h⟩
  | .compare op l r, f => by
      simp only [filterOf, untag, hasStray, comparison_eq_ok_iff, isAccess_untag, asConstant?_getD,
        fieldPath_untag_eq_ok_iff (e := l), Bool.or_eq_false_iff]
      constructor
      · rintro ⟨haccess, d, path, test, hconstant, ⟨hstray, hpath⟩, htest, rfl⟩
        exact ⟨⟨hstray, by rw [hconstant]; rfl⟩, haccess, d, path, test, hconstant, hpath, htest, rfl⟩
      · rintro ⟨⟨hstray, -⟩, haccess, d, path, test, hconstant, hpath, htest, rfl⟩
        exact ⟨haccess, d, path, test, hconstant, ⟨hstray, hpath⟩, htest, rfl⟩
  | .and l r, f | .or l r, f => by
      simp only [filterOf, untag, hasStray, bind_eq_ok, filterOf_eq_ok_iff (e := l),
        filterOf_eq_ok_iff (e := r), Bool.or_eq_false_iff]
      constructor
      · rintro ⟨a, ⟨hstrayLeft, hl⟩, b, ⟨hstrayRight, hr⟩, h⟩
        exact ⟨⟨hstrayLeft, hstrayRight⟩, a, hl, b, hr, h⟩
      · rintro ⟨⟨hstrayLeft, hstrayRight⟩, a, hl, b, hr, h⟩
        exact ⟨a, ⟨hstrayLeft, hl⟩, b, ⟨hstrayRight, hr⟩, h⟩
  | .not e, f => by
      simp only [filterOf, untag, hasStray, bind_eq_ok, filterOf_eq_ok_iff (e := e)]
      constructor
      · rintro ⟨a, ⟨hstray, ha⟩, h⟩
        exact ⟨hstray, a, ha, h⟩
      · rintro ⟨hstray, a, ha, h⟩
        exact ⟨a, ⟨hstray, ha⟩, h⟩
  | .param _, _ | .call .., _ | .cond .., _ | .lambda .., _ | .tagged .., _ | .unknown _, _
  | .raw _, _ => by simp [filterOf, hasStray, hasForeign, untag]

/-- A lambda over a foreign node, which is met again where the path starts, and a tagged constant. -/
example : filterOf .default (.unknown (.node 1 ⟨.int 7, ⟨2, []⟩⟩))
    (.compare .eq (.member (.unknown (.node 1 ⟨.int 7, ⟨2, []⟩⟩)) "age")
      (.unknown (.constant 3 ⟨.int 5, ⟨4, []⟩⟩ "x"))) = .ok (.field "age" (.equals (.int 5))) := rfl

/-- Tags are no part of a pattern. -/
lemma hasPattern_untag : ∀ e : Expr, hasPattern e.untag = hasPattern e
  | .and l r | .or l r => by
      simp only [untag, hasPattern, hasPattern_untag l, hasPattern_untag r]
  | .not e => hasPattern_untag e
  | .param _ | .const _ | .member .. | .call .. | .compare .. | .cond .. | .lambda ..
  | .tagged .. | .unknown _ | .raw _ => rfl

end Criteria.Mongo

/-! ## All traversals -/

namespace Criteria

open Criteria.Expr

/-- What is accepted by no outcome is refused. -/
lemma exists_error_of_not_ok {ε α : Type} {x : Except ε α} (h : ∀ a, x ≠ .ok a) :
    ∃ e, x = .error e := by
  cases x with
  | error e => exact ⟨e, rfl⟩
  | ok a => exact absurd rfl (h a)

/-- **A tree with a foreign node is refused** by substitution, by the compiler and by the clause
builder, wherever but in a binder the node stands.  The filter builder, for a lambda over a parameter
or over a foreign object, accepts the tree exactly if every foreign node is an access in the path of a
field, the object that the lambda binds at the start of such a path, or a constant on the right of a
comparison, and the tree with plain accesses and constants in their places is accepted; the filter is
the one for that tree. -/
theorem foreign_rejected {l : Lambda} (foreign : l.body.hasForeign = true) :
    (∀ (t : Traversal) (image : Param → Expr), ∃ e, l.toExpr.substitute t image = .error e) ∧
    (∀ props : EvaluationProperties, ∃ e, l.toExpr.compile props = .error e) ∧
    (∀ root : Sql.EntityClass, ∃ e, Sql.Clause.ofLambda root l = .error e) ∧
    (l.binder.kind? = none ∨ l.binder.kind? = some .parameter →
      ∀ (options : Mongo.Options) (f : Mongo.Filter),
        Mongo.Filter.ofLambda options l = .ok f ↔
          l.body.hasStray l.binder = false ∧
            Mongo.Filter.ofLambda options ⟨l.binder, l.body.untag⟩ = .ok f) := by
  have absurdly : ¬ l.body.hasForeign = false := by rw [foreign]; decide
  refine ⟨?substitution, ?compiler, ?clauseBuilder, ?filterBuilder⟩
  case substitution =>
    intro t image
    refine exists_error_of_not_ok fun s h => absurdly ?_
    exact hasForeign_of_substitute (e := .lambda l.binder l.body) h
  case compiler =>
    intro props
    refine exists_error_of_not_ok fun c h => absurdly ?_
    obtain ⟨_, hcheck, -⟩ := bind_eq_ok.mp h
    exact hasForeign_of_check hcheck
  case clauseBuilder =>
    intro root
    refine exists_error_of_not_ok fun c h => absurdly ?_
    obtain ⟨_, hoperand, -⟩ := bind_eq_ok.mp h
    exact hasForeign_of_operandOf hoperand
  case filterBuilder =>
    -- a binder of another kind is held by value, so whether it is met again cannot be told
    intro _ options f
    have hoptions : options.shared l.body.untag = options.shared l.body := by
      simp only [Mongo.Options.shared, Mongo.hasPattern_untag]
    rw [Mongo.Filter.ofLambda, Mongo.Filter.ofLambda, hoptions]
    exact Mongo.filterOf_eq_ok_iff

/-- The lambda that compares the age of the entity with a foreign node. -/
def foreignComparison : Lambda :=
  ⟨.param ⟨1, "p"⟩, .compare .eq (.member (.param ⟨1, "p"⟩) "age")
    (.unknown (.node 2 ⟨.int 1, ⟨3, []⟩⟩))⟩

/-- A foreign node on the right of a comparison is refused by all four. -/
theorem foreign_rejected_comparison :
    (∃ e, foreignComparison.toExpr.substitute .rebinder .param = .error e) ∧
    (∃ e, foreignComparison.toExpr.compile .default = .error e) ∧
    (∃ e, Sql.Clause.ofLambda .user foreignComparison = .error e) ∧
    ∀ f, Mongo.Filter.ofLambda .default foreignComparison ≠ .ok f := by
  obtain ⟨hsubstitution, hcompiler, hclause, hfilter⟩ :=
    foreign_rejected (l := foreignComparison) (by decide)
  refine ⟨hsubstitution _ _, hcompiler _, hclause _, fun f h => ?_⟩
  obtain ⟨hstray, -⟩ := (hfilter (.inr rfl) .default f).mp h
  exact absurd hstray (by decide)

/-- The lambda that compares a tagged access to the age of the entity with a number. -/
def taggedComparison : Lambda :=
  ⟨.param ⟨1, "p"⟩, .compare .eq (.tagged (.param ⟨1, "p"⟩) "age" "x") (.const ⟨.int 5, ⟨2, []⟩⟩)⟩

/-- The filter builder accepts a foreign node: a tagged access on the left of a comparison. -/
theorem filter_of_taggedComparison :
    taggedComparison.body.hasForeign = true ∧
      Mongo.Filter.ofLambda .default taggedComparison = .ok (.field "age" (.equals (.int 5))) := by
  constructor
  · decide
  · rfl

end Criteria
