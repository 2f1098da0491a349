import Criteria.Proofs.Eval.Simulation

/-!
# References as distances

What a reference means is fixed by the lambda around it that binds it, the innermost one if there are
several.  The nameless form of a tree keeps of each reference only how far away that lambda is, and of
each binder only that there is one.

* `Expr.resolve` — the distance of a reference, and `relates_iff`, that references belong together
  exactly if they are equally far away.
* `Expr.nameless` — the nameless form.
* **`alphaEq_iff_nameless`** — trees are alpha-equivalent exactly if they have one nameless form.
* **`call_nameless`** — lambdas with one nameless form are one and the same to their callers, whatever
  parameters they share or shadow.
-/

namespace Criteria

/-- A tree without names. -/
inductive Nameless where
  /-- A reference: the number of lambdas between it and the one that binds it, or the parameter itself
  if none does. -/
  | reference (r : Nat ⊕ Param)
  | const (d : Datum)
  | member (target : Nameless) (name : String)
  | call (f : Callee) (args : List Nameless) (label : Option String)
  | compare (op : CompareOp) (left right : Nameless)
  | and (left right : Nameless)
  | or (left right : Nameless)
  | not (operand : Nameless)
  | cond (test ifTrue ifFalse : Nameless)
  /-- A function of one argument.  Only a binder that is no parameter is kept. -/
  | lambda (improper : Option Expr) (body : Nameless)
  | foreign (e : Expr)

namespace Expr

/-! ## Distances -/

/-- How many lambdas of the scope stand between a reference and the one that binds it. -/
def resolve : List Param → Param → Nat ⊕ Param
  | [], p => .inr p
  | q :: scope, p => if q = p then .inl 0 else (resolve scope p).map (· + 1) id

@[simp] lemma resolve_cons_self (scope : List Param) (p : Param) : resolve (p :: scope) p = .inl 0 :=
  if_pos rfl

lemma resolve_cons_of_ne {p q : Param} (h : q ≠ p) (scope : List Param) :
    resolve (q :: scope) p = (resolve scope p).map (· + 1) id :=
  if_neg h

/-- Only the innermost lambda is no lambda away. -/
lemma resolve_cons_eq_zero_iff {p q : Param} {scope : List Param} :
    resolve (q :: scope) p = .inl 0 ↔ q = p := by
  constructor
  · intro h
    by_contra hne
    rw [resolve_cons_of_ne hne] at h
    cases hr : resolve scope p with
    | inl k => simp [hr] at h
    | inr r => simp [hr] at h
  · rintro rfl
    exact resolve_cons_self _ _

lemma map_succ_injective : Function.Injective (Sum.map (· + 1) id : Nat ⊕ Param → Nat ⊕ Param) :=
  Sum.map_injective.mpr ⟨Nat.succ_injective, Function.injective_id⟩

/-- **References belong together exactly if they are equally far away** from their binders. -/
lemma relates_iff {Γ : Pairing} {p q : Param} :
    Γ.Relates p q ↔ resolve (Γ.map Prod.fst) p = resolve (Γ.map Prod.snd) q := by
  induction Γ with
  | nil => simp [Pairing.Relates, resolve]
  | cons head Γ ih =>
      obtain ⟨a, b⟩ := head
      rw [List.map_cons, List.map_cons]
      by_cases bound : a = p ∨ b = q
      · rw [Pairing.relates_cons_of_bound bound]
        constructor
        · rintro ⟨rfl, rfl⟩
          rw [resolve_cons_self, resolve_cons_self]
        · intro h
          obtain rfl | rfl := bound
          · rw [resolve_cons_self] at h
            exact ⟨rfl, resolve_cons_eq_zero_iff.mp h.symm⟩
          · rw [resolve_cons_self] at h
            exact ⟨resolve_cons_eq_zero_iff.mp h, rfl⟩
      · obtain ⟨hp, hq⟩ := not_or.mp bound
        rw [Pairing.relates_cons_of_ne hp hq, ih, resolve_cons_of_ne hp, resolve_cons_of_ne hq]
        exact map_succ_injective.eq_iff.symm

/-! ## Nameless forms -/

/-- A binder that is no parameter. -/
def improperBinder : Expr → Option Expr
  | param _ => none
  | b => some b

/-- Binders of which the same is kept are both parameters, or one node that binds nothing. -/
lemma binders_of_improperBinder_eq {b b' : Expr} (h : improperBinder b = improperBinder b') :
    (∃ p q, b = param p ∧ b' = param q) ∨ (b' = b ∧ b.asParam? = none) := by
  cases b with
  | param p =>
      cases b' with
      | param q => exact .inl ⟨p, q, rfl, rfl⟩
      | _ => simp [improperBinder] at h
  | _ =>
      cases b' with
      | param q => simp [improperBinder] at h
      | _ => exact .inr ⟨(Option.some.inj h).symm, rfl⟩

mutual

/-- The tree with every reference replaced by its distance, in a scope whose innermost parameter is
the first. -/
def nameless (scope : List Param) : Expr → Nameless
  | param p => .reference (resolve scope p)
  | const d => .const d
  | member target name => .member (nameless scope target) name
  | call f args label => .call f (namelessAll scope args) label
  | compare op l r => .compare op (nameless scope l) (nameless scope r)
  | and l r => .and (nameless scope l) (nameless scope r)
  | or l r => .or (nameless scope l) (nameless scope r)
  | not e => .not (nameless scope e)
  | cond test yes no => .cond (nameless scope test) (nameless scope yes) (nameless scope no)
  | lambda binder body =>
    .lambda (improperBinder binder) (nameless (binder.asParam?.toList ++ scope) body)
  | tagged target name tag => .foreign (tagged target name tag)
  | unknown d => .foreign (unknown d)
  | raw d => .foreign (raw d)

def namelessAll (scope : List Param) : List Expr → List Nameless
  | [] => []
  | e :: es => nameless scope e :: namelessAll scope es

end

mutual

lemma AlphaEq.nameless_eq : ∀ {Γ : Pairing} {e e' : Expr}, AlphaEq Γ e e' →
    nameless (Γ.map Prod.fst) e = nameless (Γ.map Prod.snd) e'
  | _, _, _, .param h => congrArg Nameless.reference (relates_iff.mp h)
  | _, _, _, .const | _, _, _, .tagged | _, _, _, .unknown | _, _, _, .raw => rfl
  | _, _, _, .member h => by rw [nameless, nameless, h.nameless_eq]
  | _, _, _, .call h => by rw [nameless, nameless, h.namelessAll_eq]
  | _, _, _, .compare hl hr => by rw [nameless, nameless, hl.nameless_eq, hr.nameless_eq]
  | _, _, _, .and hl hr => by rw [nameless, nameless, hl.nameless_eq, hr.nameless_eq]
  | _, _, _, .or hl hr => by rw [nameless, nameless, hl.nameless_eq, hr.nameless_eq]
  | _, _, _, .not h => by rw [nameless, nameless, h.nameless_eq]
  | _, _, _, .cond ht hy hn => by
      rw [nameless, nameless, ht.nameless_eq, hy.nameless_eq, hn.nameless_eq]
  | _, _, _, .lambda h => congrArg (Nameless.lambda none) h.nameless_eq
  | _, _, _, .improper hb h => by
      rw [nameless, nameless, hb]
      exact congrArg (Nameless.lambda _) h.nameless_eq

lemma AlphaEqAll.namelessAll_eq : ∀ {Γ : Pairing} {es es' : List Expr}, AlphaEqAll Γ es es' →
    namelessAll (Γ.map Prod.fst) es = namelessAll (Γ.map Prod.snd) es'
  | _, _, _, .nil => rfl
  | _, _, _, .cons he hes => by rw [namelessAll, namelessAll, he.nameless_eq, hes.namelessAll_eq]

end

mutual

lemma alphaEq_of_nameless_eq : ∀ {Γ : Pairing} (e : Expr) {e' : Expr},
    nameless (Γ.map Prod.fst) e = nameless (Γ.map Prod.snd) e' → AlphaEq Γ e e'
  | Γ, param p, e', h => by
      cases e' with
      | param q => exact .param (relates_iff.mpr (Nameless.reference.inj h))
      | _ => simp [nameless] at h
  | Γ, const d, e', h => by
      cases e' with
      | const d' =>
          cases h
          exact .const
      | _ => simp [nameless] at h
  | Γ, member target name, e', h => by
      cases e' with
      | member target' name' =>
          obtain ⟨htarget, rfl⟩ := Nameless.member.inj h
          exact .member (alphaEq_of_nameless_eq target htarget)
      | _ => simp [nameless] at h
  | Γ, call f args label, e', h => by
      cases e' with
      | call f' args' label' =>
          obtain ⟨rfl, hargs, rfl⟩ := Nameless.call.inj h
          exact .call (alphaEqAll_of_namelessAll_eq args hargs)
      | _ => simp [nameless] at h
  | Γ, compare op l r, e', h => by
      cases e' with
      | compare op' l' r' =>
          obtain ⟨rfl, hl, hr⟩ := Nameless.compare.inj h
          exact .compare (alphaEq_of_nameless_eq l hl) (alphaEq_of_nameless_eq r hr)
      | _ => simp [nameless] at h
  | Γ, and l r, e', h => by
      cases e' with
      | and l' r' =>
          obtain ⟨hl, hr⟩ := Nameless.and.inj h
          exact .and (alphaEq_of_nameless_eq l hl) (alphaEq_of_nameless_eq r hr)
      | _ => simp [nameless] at h
  | Γ, or l r, e', h => by
      cases e' with
      | or l' r' =>
          obtain ⟨hl, hr⟩ := Nameless.or.inj h
          exact .or (alphaEq_of_nameless_eq l hl) (alphaEq_of_nameless_eq r hr)
      | _ => simp [nameless] at h
  | Γ, not e, e', h => by
      cases e' with
      | not e' => exact .not (alphaEq_of_nameless_eq e (Nameless.not.inj h))
      | _ => simp [nameless] at h
  | Γ, cond test yes no, e', h => by
      cases e' with
      | cond test' yes' no' =>
          obtain ⟨htest, hyes, hno⟩ := Nameless.cond.inj h
          exact .cond (alphaEq_of_nameless_eq test htest) (alphaEq_of_nameless_eq yes hyes)
            (alphaEq_of_nameless_eq no hno)
      | _ => simp [nameless] at h
  | Γ, lambda binder body, e', h => by
      cases e' with
      | lambda binder' body' =>
          obtain ⟨hbinder, hbody⟩ := Nameless.lambda.inj h
          obtain ⟨p, q, rfl, rfl⟩ | ⟨rfl, hb⟩ := binders_of_improperBinder_eq hbinder
          · have hinner : nameless (((p, q) :: Γ).map Prod.fst) body =
                nameless (((p, q) :: Γ).map Prod.snd) body' := hbody
            exact .lambda (alphaEq_of_nameless_eq body hinner)
          · rw [hb] at hbody
            exact .improper hb (alphaEq_of_nameless_eq body hbody)
      | _ => simp [nameless] at h
  | Γ, tagged target name tag, e', h | Γ, unknown d, e', h | Γ, raw d, e', h => by
      cases e' with
      | tagged | unknown | raw => cases h <;> constructor
      | _ => simp [nameless] at h

lemma alphaEqAll_of_namelessAll_eq : ∀ {Γ : Pairing} (es : List Expr) {es' : List Expr},
    namelessAll (Γ.map Prod.fst) es = namelessAll (Γ.map Prod.snd) es' → AlphaEqAll Γ es es'
  | Γ, [], es', h => by
      cases es' with
      | nil => exact .nil
      | cons e' es' => simp [namelessAll] at h
  | Γ, e :: es, es', h => by
      cases es' with
      | nil => simp [namelessAll] at h
      | cons e' es' =>
          obtain ⟨he, hes⟩ := List.cons.inj h
          exact .cons (alphaEq_of_nameless_eq e he) (alphaEqAll_of_namelessAll_eq es hes)

end

/-- **Trees are alpha-equivalent exactly if they have one nameless form.** -/
theorem alphaEq_iff_nameless {Γ : Pairing} {e e' : Expr} :
    AlphaEq Γ e e' ↔ nameless (Γ.map Prod.fst) e = nameless (Γ.map Prod.snd) e' :=
  ⟨AlphaEq.nameless_eq, alphaEq_of_nameless_eq e⟩

/-! ## Lexical scope -/

/-- **What a closed lambda does depends on its nameless form alone.**  Two closed lambdas with one
nameless form compile, and on every entity they do the same and end in similar items or in one fault. -/
theorem call_nameless {p q : Param} {body body' : Expr} (proper : body.isProper = true)
    (proper' : body'.isProper = true) (closed : freeParams (param p) body = .ok [])
    (closed' : freeParams (param q) body' = .ok [])
    (same : nameless [] (lambda (param p) body) = nameless [] (lambda (param q) body'))
    (props : EvaluationProperties) :
    (lambda (param p) body).compile props = .ok ⟨props, param p, body⟩ ∧
      (lambda (param q) body').compile props = .ok ⟨props, param q, body'⟩ ∧
      ∀ (host : Host) (entity : Item), Run.Sim Item.Sim
        (Compiled.call ⟨props, param p, body⟩ host entity)
        (Compiled.call ⟨props, param q, body'⟩ host entity) := by
  have halpha : AlphaEq [] (lambda (param p) body) (lambda (param q) body') :=
    alphaEq_iff_nameless.mpr same
  exact ⟨compile_of_check ((freeParams_eq_nil_iff proper).mp closed) props,
    compile_of_check ((freeParams_eq_nil_iff proper').mp closed') props,
    fun host entity => Compiled.call_sim halpha host entity⟩

/-- The identity over `q` and the function over `r` that answers with `p`, both applied to `p` and
compared. -/
def siblings (p q r : Param) : Expr :=
  compare .eq
    (call (.function ⟨"apply", "apply", "<function apply at 0x?>"⟩) [lambda (param q) (param q), param p]
      none)
    (call (.function ⟨"apply", "apply", "<function apply at 0x?>"⟩) [lambda (param r) (param p), param p]
      none)

/-- A lambda inside may shadow the one around it, and two that stand side by side may share their
parameter. -/
theorem call_nameless_siblings :
    (siblings ⟨1, "p"⟩ ⟨1, "p"⟩ ⟨2, "q"⟩).isProper = true ∧
      (siblings ⟨3, "x"⟩ ⟨4, "y"⟩ ⟨4, "y"⟩).isProper = true ∧
      freeParams (param ⟨1, "p"⟩) (siblings ⟨1, "p"⟩ ⟨1, "p"⟩ ⟨2, "q"⟩) = .ok [] ∧
      freeParams (param ⟨3, "x"⟩) (siblings ⟨3, "x"⟩ ⟨4, "y"⟩ ⟨4, "y"⟩) = .ok [] ∧
      nameless [] (lambda (param ⟨1, "p"⟩) (siblings ⟨1, "p"⟩ ⟨1, "p"⟩ ⟨2, "q"⟩)) =
        nameless [] (lambda (param ⟨3, "x"⟩) (siblings ⟨3, "x"⟩ ⟨4, "y"⟩ ⟨4, "y"⟩)) ∧
      ∀ (host : Host) (entity : Item), Run.Sim Item.Sim
        (Compiled.call ⟨.default, param ⟨1, "p"⟩, siblings ⟨1, "p"⟩ ⟨1, "p"⟩ ⟨2, "q"⟩⟩ host entity)
        (Compiled.call ⟨.default, param ⟨3, "x"⟩, siblings ⟨3, "x"⟩ ⟨4, "y"⟩ ⟨4, "y"⟩⟩ host
          entity) := by
  have closed : freeParams (param ⟨1, "p"⟩) (siblings ⟨1, "p"⟩ ⟨1, "p"⟩ ⟨2, "q"⟩) = .ok [] := rfl
  have closed' : freeParams (param ⟨3, "x"⟩) (siblings ⟨3, "x"⟩ ⟨4, "y"⟩ ⟨4, "y"⟩) = .ok [] := rfl
  have same : nameless [] (lambda (param ⟨1, "p"⟩) (siblings ⟨1, "p"⟩ ⟨1, "p"⟩ ⟨2, "q"⟩)) =
      nameless [] (lambda (param ⟨3, "x"⟩) (siblings ⟨3, "x"⟩ ⟨4, "y"⟩ ⟨4, "y"⟩)) := rfl
  obtain ⟨-, -, hsim⟩ := call_nameless rfl rfl closed closed' same .default
  exact ⟨rfl, rfl, closed, closed', same, hsim⟩

end Expr

end Criteria
