import Criteria.Proofs.Scope.Substitution
import Criteria.Proofs.Spec.Isolation

/-!
# A leaf inside a composition

Composing puts a leaf below connectives and negations and re-expresses it over other parameters.  It
stays in its place, whatever else the composition consists of.

**Conditions.**
* `Expr.Joint` — what stands directly around a condition, and `Expr.enclose`, several of them.
* `at?_enclose`, `eval_enclose` — the condition is found inside, and its evaluation is all that the whole
  takes from it.
* `substitute_enclose` — substitution comes through to the condition.

**Specifications.**
* `Spec.Step` — one combination or complement, and `Spec.enclose`, several of them.
* `Carried` — a condition that can be stated about any parameter.
* **`toLambda_enclose`** — by induction on the steps, a carried leaf stands in the lambda of the whole
  where the steps say, over the parameter of that lambda.
* **`compile_enclose`** — so it does in the compiled condition, which evaluates it on the entity.
* `exists_compile`, `closed_enclose` — compositions of closed conditions compile.
-/

namespace Criteria

namespace Expr

/-! ## Conditions -/

/-- What stands directly around a condition: a connective with its other operand, or a negation. -/
inductive Joint where
  | andLeft (right : Expr)
  | andRight (left : Expr)
  | orLeft (right : Expr)
  | orRight (left : Expr)
  | negation

namespace Joint

/-- The node around the condition. -/
def around : Joint → Expr → Expr
  | andLeft right, e => and e right
  | andRight left, e => and left e
  | orLeft right, e => or e right
  | orRight left, e => or left e
  | negation, e => not e

/-- The number of the condition among the children of the node. -/
def index : Joint → Nat
  | andLeft _ | orLeft _ | negation => 0
  | andRight _ | orRight _ => 1

/-- What the node around a condition makes of the evaluation of the condition. -/
def outcome (m : Evaluator) (apply : Item → Item → Run Item) (frame : Frame) :
    Joint → Run Item → Run Item
  | andLeft right, inner => do
    let a ← inner
    if a.truthy then right.eval m apply frame else return a
  | andRight left, inner => do
    let a ← left.eval m apply frame
    if a.truthy then inner else return a
  | orLeft right, inner => do
    let a ← inner
    if a.truthy then return a else right.eval m apply frame
  | orRight left, inner => do
    let a ← left.eval m apply frame
    if a.truthy then return a else inner
  | negation, inner => do
    let a ← inner
    return .ofBool !a.truthy

lemma at?_around (j : Joint) (e : Expr) (position : List Nat) :
    (j.around e).at? (j.index :: position) = e.at? position := by
  cases j <;> rfl

lemma eval_around (m : Evaluator) (apply : Item → Item → Run Item) (frame : Frame) (j : Joint)
    (e : Expr) :
    (j.around e).eval m apply frame = j.outcome m apply frame (e.eval m apply frame) := by
  cases j <;> rfl

end Joint

/-- The condition with everything around it, the outermost first. -/
def enclose (joints : List Joint) (e : Expr) : Expr := joints.foldr Joint.around e

/-- What everything around a condition makes of its evaluation. -/
def outcome (m : Evaluator) (apply : Item → Item → Run Item) (frame : Frame) (joints : List Joint)
    (inner : Run Item) : Run Item :=
  joints.foldr (Joint.outcome m apply frame) inner

/-- The enclosed condition is found inside. -/
lemma at?_enclose (joints : List Joint) (e : Expr) :
    (enclose joints e).at? (joints.map Joint.index) = some e := by
  induction joints with
  | nil => rfl
  | cons j joints ih => exact (j.at?_around (enclose joints e) _).trans ih

/-- **Evaluation of an enclosed condition.**  Of the condition only its evaluation matters. -/
lemma eval_enclose (m : Evaluator) (apply : Item → Item → Run Item) (frame : Frame)
    (joints : List Joint) (e : Expr) :
    (enclose joints e).eval m apply frame = outcome m apply frame joints (e.eval m apply frame) := by
  induction joints with
  | nil => rfl
  | cons j joints ih => exact (j.eval_around m apply frame (enclose joints e)).trans (congrArg _ ih)

section Substitution

variable {t : Traversal} {image : Param → Expr} {e : Expr} {s : Substituted}

/-- Substituting in a node over two parts is substituting in both. -/
lemma exists_of_substitute_pair (node : Expr → Expr → Expr) {l r : Expr}
    (hnode : substitute t image (node l r) = do
      let l' ← substitute t image l
      let r' ← substitute t image r
      return .ofParts [l', r'] (node (l'.result l) (r'.result r)))
    (h : substitute t image (node l r) = .ok s) :
    ∃ l' r', substitute t image l = .ok l' ∧ substitute t image r = .ok r' ∧
      s.result (node l r) = node (l'.result l) (r'.result r) := by
  rw [hnode] at h
  obtain ⟨l', hl, h⟩ := bind_eq_ok.mp h
  obtain ⟨r', hr, h⟩ := bind_eq_ok.mp h
  cases h
  refine ⟨l', r', hl, hr, Substituted.result_ofParts fun hkept => ?_⟩
  simp only [List.all_cons, List.all_nil, Bool.and_true, Bool.and_eq_true] at hkept
  rw [Substituted.result_of_isKept hkept.1, Substituted.result_of_isKept hkept.2]

/-- Substitution comes through one joint. -/
lemma Joint.substitute_around (j : Joint) (h : (j.around e).substitute t image = .ok s) :
    ∃ (j' : Joint) (s' : Substituted), e.substitute t image = .ok s' ∧
      s.result (j.around e) = j'.around (s'.result e) ∧ j'.index = j.index := by
  cases j with
  | andLeft right =>
      obtain ⟨e', r', he, -, hresult⟩ := exists_of_substitute_pair .and rfl h
      exact ⟨.andLeft (r'.result right), e', he, hresult, rfl⟩
  | andRight left =>
      obtain ⟨l', e', -, he, hresult⟩ := exists_of_substitute_pair .and rfl h
      exact ⟨.andRight (l'.result left), e', he, hresult, rfl⟩
  | orLeft right =>
      obtain ⟨e', r', he, -, hresult⟩ := exists_of_substitute_pair .or rfl h
      exact ⟨.orLeft (r'.result right), e', he, hresult, rfl⟩
  | orRight left =>
      obtain ⟨l', e', -, he, hresult⟩ := exists_of_substitute_pair .or rfl h
      exact ⟨.orRight (l'.result left), e', he, hresult, rfl⟩
  | negation =>
      obtain ⟨e', he, h⟩ := bind_eq_ok.mp h
      cases h
      refine ⟨.negation, e', he, Substituted.result_ofParts fun hkept => ?_, rfl⟩
      exact congrArg not (Substituted.result_of_isKept (by simpa using hkept) e)

/-- **Substitution comes through to an enclosed condition**, and leaves it in its place. -/
lemma substitute_enclose : ∀ (joints : List Joint) {s : Substituted},
    (enclose joints e).substitute t image = .ok s →
    ∃ joints' s', e.substitute t image = .ok s' ∧
      s.result (enclose joints e) = enclose joints' (s'.result e) ∧
      joints'.map Joint.index = joints.map Joint.index
  | [], s, h => ⟨[], s, h, rfl, rfl⟩
  | j :: joints, s, h => by
      obtain ⟨j', r, hr, hresult, hindex⟩ := j.substitute_around h
      obtain ⟨joints', s', hs, hinner, hindices⟩ := substitute_enclose joints hr
      refine ⟨j' :: joints', s', hs, hresult.trans (congrArg j'.around hinner), ?_⟩
      rw [List.map_cons, List.map_cons, hindex, hindices]

end Substitution

end Expr

open Criteria.Expr (Joint)

namespace Combination

/-- The connective of the combination around its left operand. -/
def leftJoint (c : Combination) (right : Expr) : Joint :=
  match c with
  | and | nor => .andLeft right
  | or | nand => .orLeft right

/-- The connective of the combination around its right operand. -/
def rightJoint (c : Combination) (left : Expr) : Joint :=
  match c with
  | and | nor => .andRight left
  | or | nand => .orRight left

/-- The negation that a negative combination puts around each operand. -/
def negations (c : Combination) : List Joint := if c.negates then [.negation] else []

variable (c : Combination)

lemma connective_eq_left (a b : Expr) : c.connective a b = (c.leftJoint b).around a := by
  cases c <;> rfl

lemma connective_eq_right (a b : Expr) : c.connective a b = (c.rightJoint a).around b := by
  cases c <;> rfl

@[simp] lemma index_leftJoint (right : Expr) : (c.leftJoint right).index = 0 := by
  cases c <;> rfl

@[simp] lemma index_rightJoint (left : Expr) : (c.rightJoint left).index = 1 := by
  cases c <;> rfl

end Combination

/-! ## Specifications -/

namespace Spec

/-- A condition that can be stated about any parameter: it is closed, and re-expressing it states it
about the other one. -/
structure Carried (body : Param → Expr) : Prop where
  closed : ∀ p, Lambda.Closed ⟨.param p, body p⟩
  rebound : ∀ p t, Expr.rebound p t (body p) = body t

/-- Replacing the parameter states an enclosed condition about the new one, in the same place. -/
lemma Carried.replace {body : Param → Expr} (carried : Carried body) {q t : Param}
    {joints : List Joint} {s : Substituted}
    (h : Expr.replace (.param q) t (Expr.enclose joints (body q)) = .ok s) :
    ∃ joints', s.result (Expr.enclose joints (body q)) = Expr.enclose joints' (body t) ∧
      joints'.map Joint.index = joints.map Joint.index := by
  obtain ⟨joints', s', hs, hresult, hindices⟩ := Expr.substitute_enclose joints h
  obtain ⟨_, ⟨rfl⟩, hproper, -⟩ := (carried.closed q).param
  obtain ⟨s'', hs'', hrebound⟩ := Expr.replace_eq_rebound q t hproper
  cases hs.symm.trans hs''
  rw [hrebound, carried.rebound] at hresult
  exact ⟨joints', hresult, hindices⟩

end Spec

namespace Lambda

/-- An operand with what the combination puts around it. -/
lemma operand_enclose (c : Combination) (p : Param) (joints : List Joint) (e : Expr) :
    operand c ⟨.param p, Expr.enclose joints e⟩ =
      ⟨.param p, Expr.enclose (c.negations ++ joints) e⟩ := by
  cases c <;> rfl

variable (c : Combination) {q : Param} {other m : Lambda}

/-- The left operand stays as it is. -/
lemma exists_of_merge_left {e : Expr} (h : merge c.connective ⟨.param q, e⟩ other = .ok m) :
    ∃ right, m = ⟨.param q, (c.leftJoint right).around e⟩ := by
  obtain ⟨_, -, h⟩ := bind_eq_ok.mp h
  obtain ⟨r, -, h⟩ := bind_eq_ok.mp h
  cases h
  refine ⟨r.body, ?_⟩
  rw [← c.connective_eq_left]

/-- The right operand is stated about the parameter of the left one. -/
lemma exists_of_merge_right {body : Param → Expr} (carried : Spec.Carried body)
    {joints : List Joint}
    (h : merge c.connective other ⟨.param q, Expr.enclose joints (body q)⟩ = .ok m) :
    ∃ t left joints', m = ⟨.param t, (c.rightJoint left).around (Expr.enclose joints' (body t))⟩ ∧
      joints'.map Joint.index = joints.map Joint.index := by
  obtain ⟨binder, a⟩ := other
  obtain ⟨t, htarget, h⟩ := bind_eq_ok.mp h
  obtain ⟨r, hrebind, h⟩ := bind_eq_ok.mp h
  cases h
  cases binder with
  | param _ =>
      cases htarget
      rw [rebind] at hrebind
      split_ifs at hrebind with hsame
      · cases hrebind
        cases hsame
        exact ⟨q, a, joints, by rw [← c.connective_eq_right], rfl⟩
      · obtain ⟨s, hs, hrebind⟩ := bind_eq_ok.mp hrebind
        cases hrebind
        obtain ⟨joints', hresult, hindices⟩ := carried.replace hs
        exact ⟨t, a, joints', by rw [hresult, ← c.connective_eq_right], hindices⟩
  | _ => cases htarget

end Lambda

namespace Build

variable {α β : Type} {n n' : Nat}

/-- A construction in two steps succeeds if both do. -/
lemma exists_of_run_bind {m : Build α} {f : α → Build β} {b : β}
    (h : (m >>= f).run n = .ok (b, n')) :
    ∃ a k, m.run n = .ok (a, k) ∧ (f a).run k = .ok (b, n') := by
  rw [StateT.run_bind] at h
  obtain ⟨⟨a, k⟩, ha, hb⟩ := bind_eq_ok.mp h
  exact ⟨a, k, ha, hb⟩

lemma ok_of_run_lift {r : Except Error α} {a : α}
    (h : (liftM r : Build α).run n = .ok (a, n')) : r = .ok a ∧ n = n' := by
  cases r with
  | error e => cases h
  | ok b =>
      cases h
      exact ⟨rfl, rfl⟩

end Build

namespace Spec

/-- The lambda of a combination is merged from those of its operands. -/
lemma exists_of_toLambda_combine {c : Combination} {l r : Spec} {m : Lambda} {n n' : Nat}
    (h : (combine c l r).toLambda.run n = .ok (m, n')) :
    ∃ left right k, l.toLambda.run n = .ok (left, k) ∧ r.toLambda.run k = .ok (right, n') ∧
      Lambda.merge c.connective (left.operand c) (right.operand c) = .ok m := by
  rw [toLambda] at h
  obtain ⟨left, k, hleft, h⟩ := Build.exists_of_run_bind h
  obtain ⟨right, k', hright, h⟩ := Build.exists_of_run_bind h
  have hlift : (liftM (Lambda.merge c.connective (left.operand c) (right.operand c)) :
      Build Lambda).run k' = .ok (m, n') := by
    cases c <;> exact h
  obtain ⟨hmerge, rfl⟩ := Build.ok_of_run_lift hlift
  exact ⟨left, right, k, hleft, hright, hmerge⟩

/-- One combination with another specification, on either side, or a complement. -/
inductive Step where
  | left (c : Combination) (right : Spec)
  | right (c : Combination) (left : Spec)
  | negation

namespace Step

/-- The specification that the step makes. -/
def around : Step → Spec → Spec
  | left c r, s => combine c s r
  | right c l, s => combine c l s
  | negation, s => negated s

/-- The conditions of the leaves that the step brings in. -/
def siblings : Step → List Lambda
  | left _ s | right _ s => s.lambdas
  | negation => []

/-- The numbers of the children that lead through the nodes of the step. -/
def indices : Step → List Nat
  | left c _ => 0 :: c.negations.map Joint.index
  | right c _ => 1 :: c.negations.map Joint.index
  | negation => [0]

end Step

/-- The specification with all steps around it, the last step first. -/
def enclose (steps : List Step) (s : Spec) : Spec := steps.foldr Step.around s

variable {body : Param → Expr}

/-- **A leaf in the lambda of a composition.**  It stands where the steps lead, over the parameter of
that lambda. -/
theorem toLambda_enclose (carried : Carried body) (p : Param) : ∀ (steps : List Step) {n n' : Nat}
    {l : Lambda}, (enclose steps (tree ⟨.param p, body p⟩)).toLambda.run n = .ok (l, n') →
    ∃ q joints, l = ⟨.param q, Expr.enclose joints (body q)⟩ ∧
      joints.map Joint.index = steps.flatMap Step.indices
  | [], _, _, _, h => by
      cases h
      exact ⟨p, [], rfl, rfl⟩
  | .left c right :: steps, _, _, _, h => by
      obtain ⟨_, _, _, hleaf, -, hmerge⟩ := exists_of_toLambda_combine h
      obtain ⟨q, joints, rfl, hindices⟩ := toLambda_enclose carried p steps hleaf
      rw [Lambda.operand_enclose] at hmerge
      obtain ⟨b, rfl⟩ := Lambda.exists_of_merge_left c hmerge
      refine ⟨q, c.leftJoint b :: (c.negations ++ joints), rfl, ?_⟩
      simp [Step.indices, hindices]
  | .right c left :: steps, _, _, _, h => by
      obtain ⟨_, _, _, -, hleaf, hmerge⟩ := exists_of_toLambda_combine h
      obtain ⟨q, joints, rfl, hindices⟩ := toLambda_enclose carried p steps hleaf
      rw [Lambda.operand_enclose] at hmerge
      -- the other operand has the parameter, so the leaf is re-expressed with all that is around it
      obtain ⟨t, a, joints', rfl, hkept⟩ := Lambda.exists_of_merge_right c carried hmerge
      refine ⟨t, c.rightJoint a :: joints', rfl, ?_⟩
      simp [Step.indices, hkept, hindices]
  | .negation :: steps, _, _, _, h => by
      obtain ⟨_, _, hleaf, h⟩ := Build.exists_of_run_bind h
      obtain ⟨q, joints, rfl, hindices⟩ := toLambda_enclose carried p steps hleaf
      cases h
      refine ⟨q, .negation :: joints, rfl, ?_⟩
      rw [List.map_cons, hindices]
      rfl

/-- **A leaf in a compiled composition.**  If the composition compiles, a carried leaf stands in the
compiled condition where the steps lead.  To evaluate the whole on an entity is to do what is around the
leaf with the leaf evaluated on that entity. -/
theorem compile_enclose (carried : Carried body) (p : Param) {steps : List Step} {n n' : Nat}
    {props : EvaluationProperties} {whole : CompiledSpec}
    (h : ((enclose steps (tree ⟨.param p, body p⟩)).compile props).run n = .ok (whole, n')) :
    ∃ q joints, whole.predicate = ⟨props, .param q, Expr.enclose joints (body q)⟩ ∧
      joints.map Joint.index = steps.flatMap Step.indices ∧
      ∀ (host : Host) (entity : Item), whole.predicate.call host entity =
        Expr.outcome ⟨props, host⟩ ((⟨props, host⟩ : Evaluator).apply depthLimit) [(q, entity)] joints
          ((body q).eval ⟨props, host⟩ ((⟨props, host⟩ : Evaluator).apply depthLimit)
            [(q, entity)]) := by
  obtain ⟨l, _, hlambda, h⟩ := Build.exists_of_run_bind h
  obtain ⟨predicate, _, hcompile, h⟩ := Build.exists_of_run_bind h
  cases h
  obtain ⟨q, joints, rfl, hindices⟩ := toLambda_enclose carried p steps hlambda
  obtain rfl := Compiled.eq_of_compile (Build.ok_of_run_lift hcompile).1
  refine ⟨q, joints, rfl, hindices, fun host entity => ?_⟩
  exact Expr.eval_enclose _ _ _ joints (body q)

/-- The leaves of a composition are the innermost one and those that the steps bring in. -/
lemma closed_enclose {s : Spec} (hs : ∀ l ∈ s.lambdas, l.Closed) : ∀ {steps : List Step},
    (∀ step ∈ steps, ∀ l ∈ step.siblings, l.Closed) → ∀ l ∈ (enclose steps s).lambdas, l.Closed
  | [], _ => hs
  | .left _ _ :: _, h => by
      obtain ⟨hright, hsteps⟩ := List.forall_mem_cons.mp h
      exact List.forall_mem_append.mpr ⟨closed_enclose hs hsteps, hright⟩
  | .right _ _ :: _, h => by
      obtain ⟨hleft, hsteps⟩ := List.forall_mem_cons.mp h
      exact List.forall_mem_append.mpr ⟨hleft, closed_enclose hs hsteps⟩
  | .negation :: steps, h => by
      have hinner : ∀ l ∈ (enclose steps s).lambdas, l.Closed :=
        closed_enclose hs (List.forall_mem_cons.mp h).2
      exact hinner

/-- Compositions of closed conditions compile. -/
lemma exists_compile {s : Spec} (closed : ∀ l ∈ s.lambdas, l.Closed) (n : Nat)
    (props : EvaluationProperties) :
    ∃ whole, (s.compile props).run n = .ok (whole, n + s.copies) := by
  obtain ⟨l, hrun, -, hclosed, -⟩ := toLambda_closed s n closed
  refine ⟨⟨s, props, l.binder, l.body⟩, ?_⟩
  rw [compile, Build.run_bind_ok hrun, Build.run_bind_ok (Build.run_lift_ok (hclosed.compile props))]
  rfl

end Spec

end Criteria
