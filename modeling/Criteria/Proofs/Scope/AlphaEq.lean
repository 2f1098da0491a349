import Criteria.Proofs.Scope.Rename
import Mathlib.Data.Set.Function

/-!
# Trees that differ only in which parameters they bind

Two trees are compared under a `Pairing` of the binders around them, innermost first.  They are
alpha-equivalent (`Expr.AlphaEq`) if they have the same nodes and every reference on the left belongs
to the same pair of binders as its counterpart on the right.

**When a renaming is harmless.**  `Expr.separates f` asks of every reference that the innermost
binder around it which gets the same new name is its own.  `alphaEq_mapParams_iff` says that this is
exactly the condition under which renaming by `f` gives an alpha-equivalent tree, and
`separates_of_injOn` that a renaming which merges no two binders satisfies it.
-/

namespace Criteria

/-- The binders around two trees side by side, the innermost pair first. -/
abbrev Pairing := List (Param × Param)

/-- Whether a reference to `p` on the left and one to `q` on the right belong together: the innermost
pair in which either of them is bound binds both.  If none does, they are one free parameter. -/
def Pairing.Relates (Γ : Pairing) (p q : Param) : Prop :=
  match Γ.find? fun a => a.1 = p || a.2 = q with
  | some a => a = (p, q)
  | none => p = q

namespace Pairing

variable {Γ : Pairing} {a b p q : Param}

lemma relates_cons_of_bound (bound : a = p ∨ b = q) :
    Relates ((a, b) :: Γ) p q ↔ a = p ∧ b = q := by
  rw [Relates, List.find?_cons_of_pos (by simpa using bound)]
  exact Prod.mk.injEq a b p q ▸ Iff.rfl

lemma relates_cons_of_ne (hp : a ≠ p) (hq : b ≠ q) :
    Relates ((a, b) :: Γ) p q ↔ Γ.Relates p q := by
  rw [Relates, List.find?_cons_of_neg (by simpa using ⟨hp, hq⟩)]
  rfl

end Pairing

namespace Expr

mutual

/-- Equality up to the choice of bound parameters. -/
inductive AlphaEq : Pairing → Expr → Expr → Prop where
  | param {Γ : Pairing} {p q : Param} : Γ.Relates p q → AlphaEq Γ (param p) (param q)
  | const {Γ : Pairing} {d : Datum} : AlphaEq Γ (const d) (const d)
  | member {Γ : Pairing} {e e' : Expr} {name : String} :
      AlphaEq Γ e e' → AlphaEq Γ (member e name) (member e' name)
  | call {Γ : Pairing} {f : Callee} {es es' : List Expr} {label : Option String} :
      AlphaEqAll Γ es es' → AlphaEq Γ (call f es label) (call f es' label)
  | compare {Γ : Pairing} {op : CompareOp} {l l' r r' : Expr} :
      AlphaEq Γ l l' → AlphaEq Γ r r' → AlphaEq Γ (compare op l r) (compare op l' r')
  | and {Γ : Pairing} {l l' r r' : Expr} :
      AlphaEq Γ l l' → AlphaEq Γ r r' → AlphaEq Γ (and l r) (and l' r')
  | or {Γ : Pairing} {l l' r r' : Expr} :
      AlphaEq Γ l l' → AlphaEq Γ r r' → AlphaEq Γ (or l r) (or l' r')
  | not {Γ : Pairing} {e e' : Expr} : AlphaEq Γ e e' → AlphaEq Γ (not e) (not e')
  | cond {Γ : Pairing} {t t' y y' n n' : Expr} :
      AlphaEq Γ t t' → AlphaEq Γ y y' → AlphaEq Γ n n' → AlphaEq Γ (cond t y n) (cond t' y' n')
  | lambda {Γ : Pairing} {p q : Param} {e e' : Expr} :
      AlphaEq ((p, q) :: Γ) e e' → AlphaEq Γ (lambda (param p) e) (lambda (param q) e')
  /-- A binder that is no parameter binds nothing. -/
  | improper {Γ : Pairing} {b e e' : Expr} :
      b.asParam? = none → AlphaEq Γ e e' → AlphaEq Γ (lambda b e) (lambda b e')
  | tagged {Γ : Pairing} {e : Expr} {name tag : String} :
      AlphaEq Γ (tagged e name tag) (tagged e name tag)
  | unknown {Γ : Pairing} {f : Foreign} : AlphaEq Γ (unknown f) (unknown f)
  | raw {Γ : Pairing} {d : Datum} : AlphaEq Γ (raw d) (raw d)

inductive AlphaEqAll : Pairing → List Expr → List Expr → Prop where
  | nil {Γ : Pairing} : AlphaEqAll Γ [] []
  | cons {Γ : Pairing} {e e' : Expr} {es es' : List Expr} :
      AlphaEq Γ e e' → AlphaEqAll Γ es es' → AlphaEqAll Γ (e :: es) (e' :: es')

end

lemma alphaEq_lambda_iff {Γ : Pairing} {p q : Param} {e e' : Expr} :
    AlphaEq Γ (lambda (param p) e) (lambda (param q) e') ↔ AlphaEq ((p, q) :: Γ) e e' := by
  refine ⟨fun h => ?_, .lambda⟩
  cases h with
  | lambda h => exact h
  | improper hb _ => simp [asParam?] at hb

/-! ## Every tree is alpha-equivalent to itself -/

lemma relates_self (scope : List Param) (p : Param) :
    Pairing.Relates (scope.map fun q => (q, q)) p p := by
  rw [Pairing.Relates, List.find?_map]
  cases h : scope.find? ((fun a : Param × Param => a.1 = p || a.2 = p) ∘ fun q => (q, q)) with
  | none => rfl
  | some q =>
      have hq := List.find?_some h
      simp only [Function.comp_apply, Bool.or_self, decide_eq_true_eq] at hq
      rw [hq]
      rfl

mutual

theorem AlphaEq.refl (scope : List Param) : ∀ e : Expr, AlphaEq (scope.map fun q => (q, q)) e e
  | param p => .param (relates_self scope p)
  | const _ => .const
  | member e _ => .member (AlphaEq.refl scope e)
  | call _ es _ => .call (AlphaEqAll.refl scope es)
  | compare _ l r => .compare (AlphaEq.refl scope l) (AlphaEq.refl scope r)
  | and l r => .and (AlphaEq.refl scope l) (AlphaEq.refl scope r)
  | or l r => .or (AlphaEq.refl scope l) (AlphaEq.refl scope r)
  | not e => .not (AlphaEq.refl scope e)
  | cond t y n => .cond (AlphaEq.refl scope t) (AlphaEq.refl scope y) (AlphaEq.refl scope n)
  | lambda b e => by
      cases b with
      | param p => exact .lambda (AlphaEq.refl (p :: scope) e)
      | _ => exact .improper rfl (AlphaEq.refl scope e)
  | tagged .. => .tagged
  | unknown _ => .unknown
  | raw _ => .raw

theorem AlphaEqAll.refl (scope : List Param) :
    ∀ es : List Expr, AlphaEqAll (scope.map fun q => (q, q)) es es
  | [] => .nil
  | e :: es => .cons (AlphaEq.refl scope e) (AlphaEqAll.refl scope es)

end

/-! ## Renamings that keep every reference with its binder -/

mutual

/-- Whether every reference keeps its binder when parameters are renamed by `f`: of the binders
around it, `scope` outermost, the innermost one that gets the same name is the reference's own. -/
def separates (f : Param → Param) (scope : List Param) : Expr → Bool
  | param p => (scope.find? fun b => f b == f p) == some p
  | const _ | unknown _ | raw _ => true
  | member target _ | tagged target _ _ => separates f scope target
  | call _ args _ => separatesAll f scope args
  | compare _ l r | and l r | or l r => separates f scope l && separates f scope r
  | not e => separates f scope e
  | cond test yes no =>
    separates f scope test && (separates f scope yes && separates f scope no)
  | lambda binder body => separates f (binder.asParam?.toList ++ scope) body

def separatesAll (f : Param → Param) (scope : List Param) : List Expr → Bool
  | [] => true
  | e :: es => separates f scope e && separatesAll f scope es

end

section Renaming

variable {image : Param → Expr} {f : Param → Param}

/-- A bound reference and its new name belong together exactly if the reference keeps its binder. -/
lemma relates_renamed_iff {scope : List Param} {p : Param} (bound : p ∈ scope) :
    Pairing.Relates (scope.map fun q => (q, f q)) p (f p) ↔ separates f scope (param p) = true := by
  have hpred : ((fun a : Param × Param => decide (a.1 = p) || decide (a.2 = f p)) ∘ fun q => (q, f q))
      = fun b => f b == f p := by
    funext b
    by_cases hb : b = p
    · simp [hb]
    · simp only [Function.comp_apply, hb, decide_false, Bool.false_or]
      rfl
  rw [Pairing.Relates, List.find?_map, hpred, separates]
  cases h : scope.find? fun b => f b == f p with
  | none => exact absurd (List.find?_eq_none.mp h p bound) (by simp)
  | some q =>
      simp only [Option.map_some, Prod.mk.injEq, beq_iff_eq, Option.some.injEq]
      exact ⟨fun hq => hq.1, fun hq => ⟨hq, congrArg f hq⟩⟩

mutual

/-- **Exactly the separating renamings are harmless.** -/
theorem alphaEq_mapParams_iff (renames : ∀ p, image p = param (f p)) (scope : List Param) :
    ∀ e : Expr, e.isProper = true → check scope e = .ok () →
      (AlphaEq (scope.map fun q => (q, f q)) e (e.mapParams image) ↔ separates f scope e = true)
  | param p, _, hc => by
      rw [check] at hc
      split_ifs at hc with hmem
      rw [mapParams, renames, ← relates_renamed_iff (List.contains_iff_mem.mp hmem)]
      exact ⟨fun h => by cases h; assumption, .param⟩
  | const _, _, _ => ⟨fun _ => rfl, fun _ => .const⟩
  | member target _, h, hc => by
      rw [separates, ← alphaEq_mapParams_iff renames scope target h hc]
      exact ⟨fun h => by cases h; assumption, .member⟩
  | call _ args _, h, hc => by
      rw [separates, ← alphaEqAll_mapParamsAll_iff renames scope args h hc]
      exact ⟨fun h => by cases h; assumption, .call⟩
  | compare _ l r, h, hc => by
      simp only [isProper, Bool.and_eq_true] at h
      rw [check, check_pair] at hc
      rw [separates, Bool.and_eq_true, ← alphaEq_mapParams_iff renames scope l h.1 hc.1,
        ← alphaEq_mapParams_iff renames scope r h.2 hc.2]
      exact ⟨fun h => by cases h; constructor <;> assumption, fun h => .compare h.1 h.2⟩
  | and l r, h, hc => by
      simp only [isProper, Bool.and_eq_true] at h
      rw [check, check_pair] at hc
      rw [separates, Bool.and_eq_true, ← alphaEq_mapParams_iff renames scope l h.1 hc.1,
        ← alphaEq_mapParams_iff renames scope r h.2 hc.2]
      exact ⟨fun h => by cases h; constructor <;> assumption, fun h => .and h.1 h.2⟩
  | or l r, h, hc => by
      simp only [isProper, Bool.and_eq_true] at h
      rw [check, check_pair] at hc
      rw [separates, Bool.and_eq_true, ← alphaEq_mapParams_iff renames scope l h.1 hc.1,
        ← alphaEq_mapParams_iff renames scope r h.2 hc.2]
      exact ⟨fun h => by cases h; constructor <;> assumption, fun h => .or h.1 h.2⟩
  | not e, h, hc => by
      rw [separates, ← alphaEq_mapParams_iff renames scope e h hc]
      exact ⟨fun h => by cases h; assumption, .not⟩
  | cond test yes no, h, hc => by
      simp only [isProper, Bool.and_eq_true] at h
      rw [check, check_pair, check_pair] at hc
      rw [separates, Bool.and_eq_true, Bool.and_eq_true,
        ← alphaEq_mapParams_iff renames scope test h.1 hc.1,
        ← alphaEq_mapParams_iff renames scope yes h.2.1 hc.2.1,
        ← alphaEq_mapParams_iff renames scope no h.2.2 hc.2.2]
      exact ⟨fun h => by cases h; refine ⟨?_, ?_, ?_⟩ <;> assumption,
        fun h => .cond h.1 h.2.1 h.2.2⟩
  | lambda binder body, h, hc => by
      obtain ⟨p, rfl, hbody⟩ := isProper_lambda h
      have ih := alphaEq_mapParams_iff renames (p :: scope) body hbody hc
      rw [mapParams, mapParams, renames]
      exact alphaEq_lambda_iff.trans ih
  | tagged .., h, _ | unknown _, h, _ | raw _, h, _ => by simp [isProper] at h

theorem alphaEqAll_mapParamsAll_iff (renames : ∀ p, image p = param (f p)) (scope : List Param) :
    ∀ es : List Expr, allProper es = true → checkAll scope es = .ok () →
      (AlphaEqAll (scope.map fun q => (q, f q)) es (mapParamsAll image es) ↔
        separatesAll f scope es = true)
  | [], _, _ => ⟨fun _ => rfl, fun _ => .nil⟩
  | e :: es, h, hc => by
      simp only [allProper, Bool.and_eq_true] at h
      rw [checkAll, check_pair] at hc
      rw [separatesAll, Bool.and_eq_true, ← alphaEq_mapParams_iff renames scope e h.1 hc.1,
        ← alphaEqAll_mapParamsAll_iff renames scope es h.2 hc.2]
      exact ⟨fun h => by cases h; constructor <;> assumption, fun h => .cons h.1 h.2⟩

end

/-! ### Merging no binders

The simple sufficient condition: `f` is injective on a set that holds all the binders concerned.
-/

mutual

/-- A renaming that merges no two of the binders around and inside a tree separates them. -/
theorem separates_of_injOn {S : Set Param} (inj : S.InjOn f) {scope : List Param}
    (hscope : ∀ b ∈ scope, b ∈ S) :
    ∀ e : Expr, e.isProper = true → check scope e = .ok () → (∀ b ∈ e.binders, b ∈ S) →
      separates f scope e = true
  | param p, _, hc, _ => by
      rw [check] at hc
      split_ifs at hc with hmem
      rw [List.contains_iff_mem] at hmem
      rw [separates]
      cases h : scope.find? fun b => f b == f p with
      | none => exact absurd (List.find?_eq_none.mp h p hmem) (by simp)
      | some q =>
          have hname := List.find?_some h
          have hq := hscope q (List.mem_of_find?_eq_some h)
          rw [beq_iff_eq] at hname
          rw [inj hq (hscope p hmem) hname]
          exact beq_self_eq_true _
  | const _, _, _, _ => rfl
  | member target _, h, hc, hb => separates_of_injOn inj hscope target h hc hb
  | call _ args _, h, hc, hb => separatesAll_of_injOn inj hscope args h hc hb
  | compare _ l r, h, hc, hb | and l r, h, hc, hb | or l r, h, hc, hb => by
      simp only [isProper, Bool.and_eq_true] at h
      rw [check, check_pair] at hc
      simp only [binders, List.forall_mem_append] at hb
      rw [separates, Bool.and_eq_true]
      exact ⟨separates_of_injOn inj hscope l h.1 hc.1 hb.1,
        separates_of_injOn inj hscope r h.2 hc.2 hb.2⟩
  | not e, h, hc, hb => separates_of_injOn inj hscope e h hc hb
  | cond test yes no, h, hc, hb => by
      simp only [isProper, Bool.and_eq_true] at h
      rw [check, check_pair, check_pair] at hc
      simp only [binders, List.forall_mem_append] at hb
      rw [separates, Bool.and_eq_true, Bool.and_eq_true]
      exact ⟨separates_of_injOn inj hscope test h.1 hc.1 hb.1,
        separates_of_injOn inj hscope yes h.2.1 hc.2.1 hb.2.1,
        separates_of_injOn inj hscope no h.2.2 hc.2.2 hb.2.2⟩
  | lambda binder body, h, hc, hb => by
      obtain ⟨p, rfl, hbody⟩ := isProper_lambda h
      have hcons : (lambda (param p) body).binders = p :: body.binders := rfl
      rw [hcons, List.forall_mem_cons] at hb
      have hinner : ∀ b ∈ p :: scope, b ∈ S := List.forall_mem_cons.mpr ⟨hb.1, hscope⟩
      exact separates_of_injOn inj hinner body hbody hc hb.2
  | tagged .., h, _, _ | unknown _, h, _, _ | raw _, h, _, _ => by simp [isProper] at h

theorem separatesAll_of_injOn {S : Set Param} (inj : S.InjOn f) {scope : List Param}
    (hscope : ∀ b ∈ scope, b ∈ S) :
    ∀ es : List Expr, allProper es = true → checkAll scope es = .ok () →
      (∀ b ∈ allBinders es, b ∈ S) → separatesAll f scope es = true
  | [], _, _, _ => rfl
  | e :: es, h, hc, hb => by
      simp only [allProper, Bool.and_eq_true] at h
      rw [checkAll, check_pair] at hc
      simp only [allBinders, List.forall_mem_append] at hb
      rw [separatesAll, Bool.and_eq_true]
      exact ⟨separates_of_injOn inj hscope e h.1 hc.1 hb.1,
        separatesAll_of_injOn inj hscope es h.2 hc.2 hb.2⟩

end

/-- Redirecting merges only its source with its target. -/
lemma redirect_injOn (source target : Param) :
    {p : Param | p ≠ target}.InjOn (redirect source target) := by
  intro a ha b hb h
  simp only [redirect, Set.mem_ofPred_eq] at ha hb h
  split_ifs at h with h₁ h₂ h₂
  · rw [h₁, h₂]
  · exact absurd h.symm hb
  · exact absurd h ha
  · exact h

end Renaming

end Expr

end Criteria
