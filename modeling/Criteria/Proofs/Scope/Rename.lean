import Criteria.Expr.Substitute
import Criteria.Proofs.Scope.Grammar

/-!
# Replacing and renaming parameters

Substitution answers with what it rebuilt and keeps what did not change.  Here it is compared with
the tree in which every parameter is simply replaced by its image.

**Replacing.**  `Expr.mapParams` replaces every occurrence of a parameter, references and binders
alike.  `substitute_eq_mapParams` says that substitution computes that tree, as long as every binder
becomes a parameter.

**Renaming.**  A replacement by parameters keeps a tree proper, renames its binders, and keeps every
reference bound (`check_mapParams`): a reference that loses its own binder to another one is still
bound by it.  `Expr.replace` is the case of a single parameter (`replace_eq_mapParams`).
-/

namespace Criteria

namespace Substituted

@[simp] lemma result_kept (e : Expr) : kept.result e = e := rfl

@[simp] lemma result_changed (old e : Expr) : (changed e).result old = e := rfl

lemma result_of_isKept {s : Substituted} (h : s.isKept = true) (e : Expr) : s.result e = e := by
  cases s with
  | kept => rfl
  | changed _ => simp [isKept] at h

/-- A node comes out as the rebuilt one, provided that rebuilding it from kept parts changes
nothing. -/
lemma result_ofParts {parts : List Substituted} {rebuilt old : Expr}
    (h : parts.all isKept = true → rebuilt = old) : (ofParts parts rebuilt).result old = rebuilt := by
  unfold ofParts
  split_ifs with hkept
  · exact (h hkept).symm
  · rfl

end Substituted

namespace Expr

open Substituted

/-! ## Replacing every occurrence -/

mutual

/-- The tree with every occurrence of a parameter replaced by its image. -/
def mapParams (image : Param → Expr) : Expr → Expr
  | param p => image p
  | const d => const d
  | member target name => member (target.mapParams image) name
  | call f args label => call f (mapParamsAll image args) label
  | compare op l r => compare op (l.mapParams image) (r.mapParams image)
  | and l r => and (l.mapParams image) (r.mapParams image)
  | or l r => or (l.mapParams image) (r.mapParams image)
  | not e => not (e.mapParams image)
  | cond test yes no => cond (test.mapParams image) (yes.mapParams image) (no.mapParams image)
  | lambda binder body => lambda (binder.mapParams image) (body.mapParams image)
  | tagged target name tag => tagged (target.mapParams image) name tag
  | unknown d => unknown d
  | raw d => raw d

def mapParamsAll (image : Param → Expr) : List Expr → List Expr
  | [] => []
  | e :: es => e.mapParams image :: mapParamsAll image es

end

mutual

/-- Replacing every parameter by itself changes nothing. -/
lemma mapParams_param : ∀ e : Expr, e.mapParams param = e
  | param _ | const _ | unknown _ | raw _ => rfl
  | member target _ | tagged target _ _ => by rw [mapParams, mapParams_param target]
  | call _ args _ => by rw [mapParams, mapParamsAll_param args]
  | compare _ l r | and l r | or l r => by
      rw [mapParams, mapParams_param l, mapParams_param r]
  | not e => by rw [mapParams, mapParams_param e]
  | cond test yes no => by
      rw [mapParams, mapParams_param test, mapParams_param yes, mapParams_param no]
  | lambda binder body => by rw [mapParams, mapParams_param binder, mapParams_param body]

lemma mapParamsAll_param : ∀ es : List Expr, mapParamsAll param es = es
  | [] => rfl
  | e :: es => by rw [mapParamsAll, mapParams_param e, mapParamsAll_param es]

end

/-- A parameter that is mapped to itself is kept, which changes nothing. -/
lemma result_substituteParam (image : Param → Expr) (p : Param) :
    (substituteParam image p).result (param p) = image p := by
  unfold substituteParam
  cases h : image p with
  | param q =>
      by_cases hq : q = p
      · simp [hq]
      · simp [hq]
  | _ => rfl

/-- The result of substituting agrees with the plain replacement, for one tree. -/
def Replaces (t : Traversal) (image : Param → Expr) (e : Expr) : Prop :=
  ∃ s, substitute t image e = .ok s ∧ s.result e = e.mapParams image

/-- A node over one part. -/
private lemma Replaces.unary {t : Traversal} {image : Param → Expr} {e : Expr}
    (node : Expr → Expr) (he : Replaces t image e)
    (hsub : substitute t image (node e) = do
      let e' ← substitute t image e
      return .ofParts [e'] (node (e'.result e)))
    (hmap : (node e).mapParams image = node (e.mapParams image)) :
    Replaces t image (node e) := by
  obtain ⟨s, hs, hres⟩ := he
  refine ⟨_, by rw [hsub, hs]; rfl, ?_⟩
  rw [result_ofParts, hres, hmap]
  intro hkept
  rw [result_of_isKept (by simpa using hkept)]

/-- A node over two parts. -/
private lemma Replaces.binary {t : Traversal} {image : Param → Expr} {l r : Expr}
    (node : Expr → Expr → Expr) (hl : Replaces t image l) (hr : Replaces t image r)
    (hsub : substitute t image (node l r) = do
      let l' ← substitute t image l
      let r' ← substitute t image r
      return .ofParts [l', r'] (node (l'.result l) (r'.result r)))
    (hmap : (node l r).mapParams image = node (l.mapParams image) (r.mapParams image)) :
    Replaces t image (node l r) := by
  obtain ⟨s, hs, hres⟩ := hl
  obtain ⟨s', hs', hres'⟩ := hr
  refine ⟨_, by rw [hsub, hs, hs']; rfl, ?_⟩
  rw [result_ofParts, hres, hres', hmap]
  intro hall
  simp only [List.all_cons, List.all_nil, Bool.and_true, Bool.and_eq_true] at hall
  rw [result_of_isKept hall.1, result_of_isKept hall.2]

mutual

/-- **Substitution replaces every occurrence.**  It succeeds on a proper tree whose binders all
become parameters. -/
theorem substitute_eq_mapParams (t : Traversal) (image : Param → Expr) :
    ∀ e : Expr, e.isProper = true → (∀ b ∈ e.binders, (image b).asParam?.isSome = true) →
      Replaces t image e
  | param p, _, _ => ⟨_, rfl, result_substituteParam image p⟩
  | const d, _, _ => ⟨.kept, rfl, rfl⟩
  | member target name, h, hb =>
      (substitute_eq_mapParams t image target h hb).unary (member · name) rfl rfl
  | call f args label, h, hb => by
      obtain ⟨ss, hss, hres, hkept⟩ := substituteAll_eq_mapParamsAll t image args h hb
      refine ⟨_, by rw [substitute, hss]; rfl, ?_⟩
      rw [result_ofParts, hres, mapParams]
      intro hall
      rw [hkept hall]
  | compare op l r, h, hb => by
      simp only [isProper, Bool.and_eq_true] at h
      simp only [binders, List.forall_mem_append] at hb
      exact (substitute_eq_mapParams t image l h.1 hb.1).binary (compare op)
        (substitute_eq_mapParams t image r h.2 hb.2) rfl rfl
  | and l r, h, hb => by
      simp only [isProper, Bool.and_eq_true] at h
      simp only [binders, List.forall_mem_append] at hb
      exact (substitute_eq_mapParams t image l h.1 hb.1).binary and
        (substitute_eq_mapParams t image r h.2 hb.2) rfl rfl
  | or l r, h, hb => by
      simp only [isProper, Bool.and_eq_true] at h
      simp only [binders, List.forall_mem_append] at hb
      exact (substitute_eq_mapParams t image l h.1 hb.1).binary or
        (substitute_eq_mapParams t image r h.2 hb.2) rfl rfl
  | not e, h, hb => (substitute_eq_mapParams t image e h hb).unary not rfl rfl
  | cond test yes no, h, hb => by
      simp only [isProper, Bool.and_eq_true] at h
      simp only [binders, List.forall_mem_append] at hb
      obtain ⟨s, hs, hres⟩ := substitute_eq_mapParams t image test h.1 hb.1
      obtain ⟨s', hs', hres'⟩ := substitute_eq_mapParams t image yes h.2.1 hb.2.1
      obtain ⟨s'', hs'', hres''⟩ := substitute_eq_mapParams t image no h.2.2 hb.2.2
      refine ⟨_, by rw [substitute, hs, hs', hs'']; rfl, ?_⟩
      rw [result_ofParts, hres, hres', hres'', mapParams]
      intro hall
      simp only [List.all_cons, List.all_nil, Bool.and_true, Bool.and_eq_true] at hall
      rw [result_of_isKept hall.1, result_of_isKept hall.2.1, result_of_isKept hall.2.2]
  | lambda binder body, h, hb => by
      obtain ⟨p, rfl, hbody⟩ := isProper_lambda h
      have hcons : (lambda (param p) body).binders = p :: body.binders := rfl
      rw [hcons, List.forall_mem_cons] at hb
      obtain ⟨s, hs, hres⟩ := substitute_eq_mapParams t image body hbody hb.2
      have himage := result_substituteParam image p
      -- the guard on the binder is passed, since its image is a parameter
      have hguard : ¬ (image p).asParam?.isNone = true := by
        rw [Option.isNone_iff_eq_none]
        exact Option.isSome_iff_ne_none.mp hb.1
      refine ⟨.ofParts [substituteParam image p, s] (lambda (image p) (s.result body)), ?_, ?_⟩
      · rw [substitute, substitute]
        simp only [bind, Except.bind, himage, hs]
        rw [if_neg hguard]
        rfl
      · rw [result_ofParts, hres, mapParams, mapParams]
        intro hall
        simp only [List.all_cons, List.all_nil, Bool.and_true, Bool.and_eq_true] at hall
        rw [← himage, result_of_isKept hall.1, result_of_isKept hall.2]
  | tagged .., h, _ | unknown _, h, _ | raw _, h, _ => by simp [isProper] at h

theorem substituteAll_eq_mapParamsAll (t : Traversal) (image : Param → Expr) :
    ∀ es : List Expr, allProper es = true →
      (∀ b ∈ allBinders es, (image b).asParam?.isSome = true) →
      ∃ ss, substituteAll t image es = .ok ss ∧
        List.zipWith result es ss = mapParamsAll image es ∧
        (ss.all isKept = true → List.zipWith result es ss = es)
  | [], _, _ => ⟨[], rfl, rfl, fun _ => rfl⟩
  | e :: es, h, hb => by
      simp only [allProper, Bool.and_eq_true] at h
      simp only [allBinders, List.forall_mem_append] at hb
      obtain ⟨s, hs, hres⟩ := substitute_eq_mapParams t image e h.1 hb.1
      obtain ⟨ss, hss, hresAll, hkept⟩ := substituteAll_eq_mapParamsAll t image es h.2 hb.2
      refine ⟨s :: ss, by rw [substituteAll, hs, hss]; rfl, ?_, ?_⟩
      · rw [List.zipWith_cons_cons, hres, hresAll, mapParamsAll]
      · intro hall
        simp only [List.all_cons, Bool.and_eq_true] at hall
        rw [List.zipWith_cons_cons, result_of_isKept hall.1, hkept hall.2]

end

/-! ## Renaming

A renaming replaces parameters by parameters.  What it merges and what it captures does not matter
here: a tree stays proper, and every reference stays bound.
-/

section Renaming

variable {image : Param → Expr} {f : Param → Param}

mutual

lemma isProper_mapParams (renames : ∀ p, image p = param (f p)) :
    ∀ e : Expr, e.isProper = true → (e.mapParams image).isProper = true
  | param p, _ => by rw [mapParams, renames, isProper]
  | const _, _ => rfl
  | member target _, h => isProper_mapParams renames target h
  | call _ args _, h => allProper_mapParamsAll renames args h
  | compare _ l r, h | and l r, h | or l r, h => by
      simp only [isProper, mapParams, Bool.and_eq_true] at h ⊢
      exact ⟨isProper_mapParams renames l h.1, isProper_mapParams renames r h.2⟩
  | not e, h => isProper_mapParams renames e h
  | cond test yes no, h => by
      simp only [isProper, mapParams, Bool.and_eq_true] at h ⊢
      exact ⟨isProper_mapParams renames test h.1, isProper_mapParams renames yes h.2.1,
        isProper_mapParams renames no h.2.2⟩
  | lambda binder body, h => by
      obtain ⟨p, rfl, hbody⟩ := isProper_lambda h
      rw [mapParams, mapParams, renames, isProper]
      exact isProper_mapParams renames body hbody
  | tagged .., h | unknown _, h | raw _, h => by simp [isProper] at h

lemma allProper_mapParamsAll (renames : ∀ p, image p = param (f p)) :
    ∀ es : List Expr, allProper es = true → allProper (mapParamsAll image es) = true
  | [], _ => rfl
  | e :: es, h => by
      simp only [allProper, mapParamsAll, Bool.and_eq_true] at h ⊢
      exact ⟨isProper_mapParams renames e h.1, allProper_mapParamsAll renames es h.2⟩

end

mutual

lemma binders_mapParams (renames : ∀ p, image p = param (f p)) :
    ∀ e : Expr, e.isProper = true → (e.mapParams image).binders = e.binders.map f
  | param p, _ => by rw [mapParams, renames, binders, binders, List.map_nil]
  | const _, _ => rfl
  | member target _, h => binders_mapParams renames target h
  | call _ args _, h => allBinders_mapParamsAll renames args h
  | compare _ l r, h | and l r, h | or l r, h => by
      simp only [isProper, Bool.and_eq_true] at h
      simp only [mapParams, binders, List.map_append]
      rw [binders_mapParams renames l h.1, binders_mapParams renames r h.2]
  | not e, h => binders_mapParams renames e h
  | cond test yes no, h => by
      simp only [isProper, Bool.and_eq_true] at h
      simp only [mapParams, binders, List.map_append]
      rw [binders_mapParams renames test h.1, binders_mapParams renames yes h.2.1,
        binders_mapParams renames no h.2.2]
  | lambda binder body, h => by
      obtain ⟨p, rfl, hbody⟩ := isProper_lambda h
      simp only [mapParams, binders, List.map_append, renames]
      rw [binders_mapParams renames body hbody]
      rfl
  | tagged .., h | unknown _, h | raw _, h => by simp [isProper] at h

lemma allBinders_mapParamsAll (renames : ∀ p, image p = param (f p)) :
    ∀ es : List Expr, allProper es = true →
      allBinders (mapParamsAll image es) = (allBinders es).map f
  | [], _ => rfl
  | e :: es, h => by
      simp only [allProper, Bool.and_eq_true] at h
      simp only [mapParamsAll, allBinders, List.map_append]
      rw [binders_mapParams renames e h.1, allBinders_mapParamsAll renames es h.2]

end

/-- A check of two parts passes if both do. -/
lemma check_pair {a b : Except Error Unit} :
    (do a; b : Except Error Unit) = .ok () ↔ a = .ok () ∧ b = .ok () := by
  cases a with
  | ok _ => exact ⟨fun h => ⟨rfl, h⟩, fun h => h.2⟩
  | error e => exact ⟨fun h => (nomatch h), fun h => (nomatch h.1)⟩

mutual

/-- **A renaming leaves no reference unbound.**  It may hand a reference over to another binder, but
the binder that the reference had is renamed with it. -/
theorem check_mapParams (renames : ∀ p, image p = param (f p)) (scope : List Param) :
    ∀ e : Expr, e.isProper = true → check scope e = .ok () →
      check (scope.map f) (e.mapParams image) = .ok ()
  | param p, _, hc => by
      rw [check] at hc
      split_ifs at hc with hmem
      rw [mapParams, renames, check, if_pos]
      rw [List.contains_iff_mem] at hmem ⊢
      exact List.mem_map_of_mem hmem
  | const _, _, _ => rfl
  | member target _, h, hc => check_mapParams renames scope target h hc
  | call _ args _, h, hc => checkAll_mapParamsAll renames scope args h hc
  | compare _ l r, h, hc | and l r, h, hc | or l r, h, hc => by
      simp only [isProper, Bool.and_eq_true] at h
      rw [check, check_pair] at hc
      rw [mapParams, check, check_pair]
      exact ⟨check_mapParams renames scope l h.1 hc.1, check_mapParams renames scope r h.2 hc.2⟩
  | not e, h, hc => check_mapParams renames scope e h hc
  | cond test yes no, h, hc => by
      simp only [isProper, Bool.and_eq_true] at h
      rw [check, check_pair, check_pair] at hc
      rw [mapParams, check, check_pair, check_pair]
      exact ⟨check_mapParams renames scope test h.1 hc.1,
        check_mapParams renames scope yes h.2.1 hc.2.1,
        check_mapParams renames scope no h.2.2 hc.2.2⟩
  | lambda binder body, h, hc => by
      obtain ⟨p, rfl, hbody⟩ := isProper_lambda h
      rw [mapParams, mapParams, renames]
      exact check_mapParams renames (p :: scope) body hbody hc
  | tagged .., h, _ | unknown _, h, _ | raw _, h, _ => by simp [isProper] at h

theorem checkAll_mapParamsAll (renames : ∀ p, image p = param (f p)) (scope : List Param) :
    ∀ es : List Expr, allProper es = true → checkAll scope es = .ok () →
      checkAll (scope.map f) (mapParamsAll image es) = .ok ()
  | [], _, _ => rfl
  | e :: es, h, hc => by
      simp only [allProper, Bool.and_eq_true] at h
      rw [checkAll, check_pair] at hc
      rw [mapParamsAll, checkAll, check_pair]
      exact ⟨check_mapParams renames scope e h.1 hc.1,
        checkAll_mapParamsAll renames scope es h.2 hc.2⟩

end

end Renaming

/-! ## Replacing one parameter -/

/-- The renaming that sends `source` to `target` and leaves every other parameter alone. -/
def redirect (source target p : Param) : Param := if p = source then target else p

@[simp] lemma redirect_self (p q : Param) : redirect p p q = q := by
  unfold redirect
  split_ifs with h
  · exact h.symm
  · rfl

lemma replacement_eq_redirect (source target p : Param) :
    replacement (param source) target p = param (redirect source target p) := by
  simp only [replacement, redirect, asParam?, Option.some.injEq, eq_comm (a := p)]
  split_ifs <;> rfl

/-- Replacing one parameter of a proper tree always succeeds. -/
lemma replace_eq_mapParams (source target : Param) {e : Expr} (proper : e.isProper = true) :
    ∃ s, replace (param source) target e = .ok s ∧
      s.result e = e.mapParams (replacement (param source) target) := by
  refine substitute_eq_mapParams .rebinder _ e proper fun b _ => ?_
  rw [replacement_eq_redirect]
  rfl

end Expr

end Criteria
