import Criteria.Expr.Walk
import Criteria.Proofs.Eval.Quiet
import Criteria.Proofs.Scope.Rename
import Mathlib

/-!
# Substitution shares what it does not change

Substitution rebuilds a tree as little as it can.  For any map of parameters this says when it fails,
what it gives, and which nodes of the original it hands back.

* `Expr.params` and `Expr.lambdas` — the occurrences of parameters in a tree, and its lambdas.
* `LosesBinder` — what a lambda that loses its parameter is refused with.
* `failure_substitute` — substitution fails only because of such a lambda, the first one of the walk.
* `Expr.isKept_iff` — a node is handed back exactly if every parameter below it is mapped to itself.
* `Expr.at?` — the node at a position, and `at?_mapParams`, that replacing keeps the positions.
* **`substitute_exact`** — the three together, for every node of a tree.
-/

namespace Criteria

namespace Expr

open Substituted

/-! ## Occurrences -/

mutual

/-- The occurrences of parameters, references and binders alike, in the order of the walk. -/
def params : Expr → List Param
  | param p => [p]
  | const _ | unknown _ | raw _ => []
  | member target _ | tagged target _ _ => target.params
  | call _ args _ => allParams args
  | compare _ l r | and l r | or l r => l.params ++ r.params
  | not e => e.params
  | cond test yes no => test.params ++ (yes.params ++ no.params)
  | lambda binder body => binder.params ++ body.params

def allParams : List Expr → List Param
  | [] => []
  | e :: es => e.params ++ allParams es

end

mutual

/-- The lambdas over parameters in a tree, each as its parameter and its body, in the order of the
walk. -/
def lambdas : Expr → List (Param × Expr)
  | param _ | const _ | unknown _ | raw _ => []
  | member target _ | tagged target _ _ => target.lambdas
  | call _ args _ => allLambdas args
  | compare _ l r | and l r | or l r => l.lambdas ++ r.lambdas
  | not e => e.lambdas
  | cond test yes no => test.lambdas ++ (yes.lambdas ++ no.lambdas)
  | lambda binder body => (binder.asParam?.toList.map (·, body)) ++ body.lambdas

def allLambdas : List Expr → List (Param × Expr)
  | [] => []
  | e :: es => e.lambdas ++ allLambdas es

end

mutual

lemma map_fst_lambdas : ∀ e : Expr, e.lambdas.map Prod.fst = e.binders
  | param _ | const _ | unknown _ | raw _ => rfl
  | member target _ | tagged target _ _ => map_fst_lambdas target
  | call _ args _ => map_fst_allLambdas args
  | compare _ l r | and l r | or l r => by
      rw [lambdas, binders, List.map_append, map_fst_lambdas l, map_fst_lambdas r]
  | not e => map_fst_lambdas e
  | cond test yes no => by
      rw [lambdas, binders, List.map_append, List.map_append, map_fst_lambdas test,
        map_fst_lambdas yes, map_fst_lambdas no]
  | lambda binder body => by
      simp [lambdas, binders, map_fst_lambdas body, Function.comp_def]

lemma map_fst_allLambdas : ∀ es : List Expr, (allLambdas es).map Prod.fst = allBinders es
  | [] => rfl
  | e :: es => by
      rw [allLambdas, allBinders, List.map_append, map_fst_lambdas e, map_fst_allLambdas es]

end

/-! ## When substitution fails -/

/-- What is raised about a lambda whose parameter becomes something else, if it does. -/
def binderLoss (image : Param → Expr) (l : Param × Expr) : Option Error :=
  if (image l.1).asParam?.isNone then
    some (.ofUnsupported (.binderLost (image l.1) (lambda (param l.1) l.2)))
  else none

lemma binderLoss_eq_none_iff {image : Param → Expr} {l : Param × Expr} :
    binderLoss image l = none ↔ (image l.1).asParam? ≠ none := by
  simp [binderLoss]

/-- What a lambda that loses its parameter is refused with.  It is reported, with its text and that of
what became of the parameter; if one of them cannot be written, that is raised instead. -/
inductive LosesBinder (image : Param → Expr) (l : Param × Expr) : Error → Prop where
  | reported : (image l.1).asParam? = none → (image l.1).textFault? = none →
      (lambda (param l.1) l.2).textFault? = none →
      LosesBinder image l (.unsupported (.binderLost (image l.1) (lambda (param l.1) l.2)))
  | unwritable {f : Fault} : (image l.1).asParam? = none →
      (image l.1).textFault?.or (lambda (param l.1) l.2).textFault? = some f →
      LosesBinder image l (.fault f)

lemma losesBinder_of_binderLoss {image : Param → Expr} {l : Param × Expr} {err : Error}
    (h : binderLoss image l = some err) : LosesBinder image l err := by
  unfold binderLoss at h
  split_ifs at h with hlost
  obtain rfl := Option.some.inj h
  have hlost : (image l.1).asParam? = none := by simpa using hlost
  cases hwriting : (Unsupported.binderLost (image l.1) (lambda (param l.1) l.2)).fault? with
  | none =>
      obtain ⟨himage, hlambda⟩ := Option.or_eq_none_iff.mp hwriting
      rw [Error.ofUnsupported_of_written hwriting]
      exact .reported hlost himage hlambda
  | some f =>
      rw [Error.ofUnsupported_of_fault hwriting]
      exact .unwritable hlost hwriting

lemma LosesBinder.lost {image : Param → Expr} {l : Param × Expr} {err : Error}
    (h : LosesBinder image l err) : (image l.1).asParam? = none := by
  cases h <;> assumption

mutual

/-- **What substitution fails with**: the complaint about the first lambda of the walk that loses its
parameter, and nothing else. -/
theorem failure_substitute (t : Traversal) (image : Param → Expr) : ∀ e : Expr, e.isProper = true →
    failure (substitute t image e) = e.lambdas.findSome? (binderLoss image)
  | param _, _ | const _, _ => rfl
  | member target _, h => by
      rw [substitute, failure_one]
      exact failure_substitute t image target h
  | call _ args _, h => by
      rw [substitute, failure_one]
      exact failure_substituteAll t image args h
  | compare _ l r, h | and l r, h | or l r, h => by
      simp only [isProper, Bool.and_eq_true] at h
      rw [substitute, failure_two, failure_substitute t image l h.1,
        failure_substitute t image r h.2, lambdas, List.findSome?_append]
  | not e, h => by
      rw [substitute, failure_one]
      exact failure_substitute t image e h
  | cond test yes no, h => by
      simp only [isProper, Bool.and_eq_true] at h
      rw [substitute, failure_three, failure_substitute t image test h.1,
        failure_substitute t image yes h.2.1, failure_substitute t image no h.2.2, lambdas,
        List.findSome?_append, List.findSome?_append]
  | lambda binder body, h => by
      obtain ⟨p, rfl, hbody⟩ := isProper_lambda h
      have himage := result_substituteParam image p
      show _ = ((p, body) :: body.lambdas).findSome? (binderLoss image)
      rw [substitute, substitute, List.findSome?_cons, binderLoss]
      simp only [bind, Except.bind, himage]
      -- the guard on the binder stands before the body
      by_cases hlost : (image p).asParam?.isNone = true
      · rw [if_pos hlost, if_pos hlost]
        rfl
      · rw [if_neg hlost, if_neg hlost]
        exact (failure_one _ _).trans (failure_substitute t image body hbody)
  | tagged .., h | unknown _, h | raw _, h => by simp [isProper] at h

theorem failure_substituteAll (t : Traversal) (image : Param → Expr) : ∀ es : List Expr,
    allProper es = true →
      failure (substituteAll t image es) = (allLambdas es).findSome? (binderLoss image)
  | [], _ => rfl
  | e :: es, h => by
      simp only [allProper, Bool.and_eq_true] at h
      rw [substituteAll, failure_two, failure_substitute t image e h.1,
        failure_substituteAll t image es h.2, allLambdas, List.findSome?_append]

end

/-- **The first lambda of the walk that loses its parameter is refused.** -/
theorem losesBinder_of_substitute {t : Traversal} {image : Param → Expr} {e : Expr}
    (proper : e.isProper = true) {err : Error} (h : substitute t image e = .error err) :
    ∃ before l after, e.lambdas = before ++ l :: after ∧
      (∀ b ∈ before, (image b.1).asParam? ≠ none) ∧ LosesBinder image l err := by
  have hfirst := (failure_substitute t image e proper).symm.trans (failure_eq_some_iff.mpr h)
  obtain ⟨before, l, after, hlambdas, hloss, hbefore⟩ := List.findSome?_eq_some_iff.mp hfirst
  refine ⟨before, l, after, hlambdas, fun b hb => ?_, losesBinder_of_binderLoss hloss⟩
  exact binderLoss_eq_none_iff.mp (hbefore b hb)

/-- **When substitution fails.** -/
theorem substitute_fails_iff (t : Traversal) (image : Param → Expr) {e : Expr}
    (proper : e.isProper = true) :
    (∃ err, substitute t image e = .error err) ↔ ∃ l ∈ e.lambdas, (image l.1).asParam? = none := by
  constructor
  · rintro ⟨err, herr⟩
    obtain ⟨before, l, after, hlambdas, -, hloses⟩ := losesBinder_of_substitute proper herr
    exact ⟨l, by simp [hlambdas], hloses.lost⟩
  · rintro ⟨l, hl, hlost⟩
    have hfail := failure_substitute t image e proper
    cases hfirst : e.lambdas.findSome? (binderLoss image) with
    | none =>
        have hkeeps := binderLoss_eq_none_iff.mp (List.findSome?_eq_none_iff.mp hfirst l hl)
        exact absurd hlost hkeeps
    | some err => exact ⟨err, failure_eq_some_iff.mp (hfail.trans hfirst)⟩

/-! ## What is shared -/

lemma isKept_ofParts (parts : List Substituted) (rebuilt : Expr) :
    (ofParts parts rebuilt).isKept = parts.all isKept := by
  unfold ofParts
  split_ifs with h
  · exact h.symm
  · simpa [isKept] using h

lemma isKept_substituteParam (image : Param → Expr) (p : Param) :
    (substituteParam image p).isKept = true ↔ image p = param p := by
  unfold substituteParam
  split
  · rename_i q hq
    by_cases h : q = p <;> simp [h, hq, isKept]
  · rename_i hq
    simpa [isKept] using hq p

mutual

/-- **What is shared.**  A node is handed back exactly if every parameter in it is mapped to itself. -/
theorem isKept_iff (t : Traversal) (image : Param → Expr) :
    ∀ (e : Expr) {s : Substituted}, substitute t image e = .ok s →
      (s.isKept = true ↔ ∀ q ∈ e.params, image q = param q)
  | param p, s, h => by
      cases h
      simp [params, isKept_substituteParam]
  | const _, s, h => by
      cases h
      simp [params, isKept]
  | member target _, s, h | not target, s, h => by
      obtain ⟨s', hs', h⟩ := bind_eq_ok.mp h
      cases h
      rw [isKept_ofParts]
      simpa [params] using isKept_iff t image target hs'
  | call _ args _, s, h => by
      obtain ⟨ss, hss, h⟩ := bind_eq_ok.mp h
      cases h
      rw [isKept_ofParts]
      exact all_isKept_iff t image args hss
  | compare _ l r, s, h | and l r, s, h | or l r, s, h => by
      obtain ⟨sl, hsl, h⟩ := bind_eq_ok.mp h
      obtain ⟨sr, hsr, h⟩ := bind_eq_ok.mp h
      cases h
      rw [isKept_ofParts, params, List.forall_mem_append, ← isKept_iff t image l hsl,
        ← isKept_iff t image r hsr]
      simp
  | cond test yes no, s, h => by
      obtain ⟨st, hst, h⟩ := bind_eq_ok.mp h
      obtain ⟨sy, hsy, h⟩ := bind_eq_ok.mp h
      obtain ⟨sn, hsn, h⟩ := bind_eq_ok.mp h
      cases h
      rw [isKept_ofParts, params, List.forall_mem_append, List.forall_mem_append,
        ← isKept_iff t image test hst, ← isKept_iff t image yes hsy, ← isKept_iff t image no hsn]
      simp
  | lambda binder body, s, h => by
      obtain ⟨sb, hsb, h⟩ := bind_eq_ok.mp h
      split_ifs at h with hlost
      · cases h
      · obtain ⟨s', hs', h⟩ := bind_eq_ok.mp h
        cases h
        rw [isKept_ofParts, params, List.forall_mem_append, ← isKept_iff t image binder hsb,
          ← isKept_iff t image body hs']
        simp
  | tagged .., s, h | unknown _, s, h | raw _, s, h => nomatch h

theorem all_isKept_iff (t : Traversal) (image : Param → Expr) :
    ∀ (es : List Expr) {ss : List Substituted}, substituteAll t image es = .ok ss →
      (ss.all isKept = true ↔ ∀ q ∈ allParams es, image q = param q)
  | [], ss, h => by
      cases h
      simp [allParams]
  | e :: es, ss, h => by
      obtain ⟨s, hs, h⟩ := bind_eq_ok.mp h
      obtain ⟨ss', hss', h⟩ := bind_eq_ok.mp h
      cases h
      rw [allParams, List.forall_mem_append, ← isKept_iff t image e hs,
        ← all_isKept_iff t image es hss']
      simp

end

/-! ## Positions -/

/-- The node that is reached by going down to the child of each number in turn. -/
def at? : List Nat → Expr → Option Expr
  | [], e => some e
  | i :: position, e =>
    match e.children? with
    | .ok cs => cs[i]?.bind (at? position)
    | .error _ => none

lemma mapParamsAll_eq_map (image : Param → Expr) :
    ∀ es : List Expr, mapParamsAll image es = es.map (mapParams image)
  | [] => rfl
  | e :: es => by rw [mapParamsAll, mapParamsAll_eq_map image es, List.map_cons]

/-- The children of a node that is no parameter are replaced one by one. -/
lemma children?_mapParams {e : Expr} {cs : List Expr} (h : e.children? = .ok cs) (hcs : cs ≠ [])
    (image : Param → Expr) : (e.mapParams image).children? = .ok (cs.map (mapParams image)) := by
  cases e with
  | param | const | unknown => cases h; exact absurd rfl hcs
  | call f args label =>
      cases h
      rw [mapParams, children?, mapParamsAll_eq_map]
  | raw => cases h
  | _ => cases h; rfl

/-- **Replacing keeps the positions.**  The node at a position becomes what replacing makes of it. -/
lemma at?_mapParams (image : Param → Expr) : ∀ (position : List Nat) {e n : Expr},
    e.at? position = some n → (e.mapParams image).at? position = some (n.mapParams image)
  | [], e, n, h => by
      cases h
      rfl
  | i :: position, e, n, h => by
      rw [at?] at h ⊢
      cases hcs : e.children? with
      | error f => simp [hcs] at h
      | ok cs =>
          rw [hcs] at h
          obtain ⟨c, hc, hn⟩ := Option.bind_eq_some_iff.mp h
          have hne : cs ≠ [] := by
            rintro rfl
            simp at hc
          rw [children?_mapParams hcs hne image]
          simpa [hc] using at?_mapParams image position hn

lemma isProper_of_mem {c : Expr} : ∀ {es : List Expr}, allProper es = true → c ∈ es →
    c.isProper = true
  | e :: es, h, hc => by
      simp only [allProper, Bool.and_eq_true] at h
      obtain rfl | hc := List.mem_cons.mp hc
      · exact h.1
      · exact isProper_of_mem h.2 hc

lemma binders_subset_allBinders {c : Expr} : ∀ {es : List Expr}, c ∈ es →
    c.binders ⊆ allBinders es
  | e :: es, hc => by
      rw [allBinders]
      obtain rfl | hc := List.mem_cons.mp hc
      · exact List.subset_append_left _ _
      · exact List.Subset.trans (binders_subset_allBinders hc) (List.subset_append_right _ _)

/-- The children of a proper node are proper, and bind nothing that it does not bind. -/
lemma allProper_children {e : Expr} {cs : List Expr} (h : e.children? = .ok cs)
    (proper : e.isProper = true) : allProper cs = true ∧ allBinders cs ⊆ e.binders := by
  cases e with
  | param | const => cases h; exact ⟨rfl, List.Subset.refl _⟩
  | lambda binder body =>
      obtain ⟨p, rfl, hbody⟩ := isProper_lambda proper
      cases h
      simp [allProper, allBinders, binders, asParam?, hbody, isProper]
  | tagged | unknown | raw => simp [isProper] at proper
  | _ =>
      cases h
      simpa [allProper, allBinders, binders, isProper] using proper

/-- So it is with every node of a proper tree. -/
lemma isProper_of_at? : ∀ (position : List Nat) {e n : Expr}, e.at? position = some n →
    e.isProper = true → n.isProper = true ∧ n.binders ⊆ e.binders
  | [], e, n, h, proper => by
      cases h
      exact ⟨proper, List.Subset.refl _⟩
  | i :: position, e, n, h, proper => by
      rw [at?] at h
      cases hcs : e.children? with
      | error f => simp [hcs] at h
      | ok cs =>
          rw [hcs] at h
          obtain ⟨c, hc, hn⟩ := Option.bind_eq_some_iff.mp h
          have hmem := List.mem_of_getElem? hc
          obtain ⟨hproper, hbinders⟩ := allProper_children hcs proper
          obtain ⟨hn', hsub⟩ := isProper_of_at? position hn (isProper_of_mem hproper hmem)
          refine ⟨hn', List.Subset.trans hsub ?_⟩
          exact List.Subset.trans (binders_subset_allBinders hmem) hbinders

/-! ## All together -/

/-- **Substitution is replacement with as much sharing as possible.**  It fails exactly if some lambda
loses its parameter, and refuses the first one of the walk.  Otherwise it gives the tree with every
occurrence replaced, in which every node of the original stands at its position: as it was exactly if
every parameter in it is mapped to itself, and else as the node that substituting in it alone gives. -/
theorem substitute_exact (t : Traversal) (image : Param → Expr) {e : Expr}
    (proper : e.isProper = true) :
    ((∃ err, substitute t image e = .error err) ↔ ∃ l ∈ e.lambdas, (image l.1).asParam? = none) ∧
    (∀ err, substitute t image e = .error err →
      ∃ before l after, e.lambdas = before ++ l :: after ∧
        (∀ b ∈ before, (image b.1).asParam? ≠ none) ∧ LosesBinder image l err) ∧
    ((∀ l ∈ e.lambdas, (image l.1).asParam? ≠ none) →
      ∃ s, substitute t image e = .ok s ∧ s.result e = e.mapParams image ∧
        ∀ position n, e.at? position = some n →
          ∃ r, substitute t image n = .ok r ∧
            (s.result e).at? position = some (r.result n) ∧
            (r.isKept = true ↔ ∀ q ∈ n.params, image q = param q)) := by
  refine ⟨substitute_fails_iff t image proper,
    fun _ herr => losesBinder_of_substitute proper herr, fun hkeeps => ?_⟩
  have hbinders : ∀ b ∈ e.binders, (image b).asParam?.isSome = true := by
    rw [← map_fst_lambdas]
    simpa [Option.isSome_iff_ne_none] using hkeeps
  obtain ⟨s, hs, hres⟩ := substitute_eq_mapParams t image e proper hbinders
  refine ⟨s, hs, hres, fun position n hn => ?_⟩
  obtain ⟨hproper, hsub⟩ := isProper_of_at? position hn proper
  obtain ⟨r, hr, hrn⟩ := substitute_eq_mapParams t image n hproper fun b hb =>
    hbinders b (hsub hb)
  refine ⟨r, hr, ?_, isKept_iff t image n hr⟩
  rw [hres, hrn]
  exact at?_mapParams image position hn

/-- A comparison of a member of `p` with an application of the identity over `q`. -/
def halfway (p q : Param) : Expr :=
  compare .eq (member (param p) "name")
    (call (.function ⟨"apply", "apply", "<function apply at 0x?>"⟩)
      [lambda (param q) (param q), const ⟨.int 5, ⟨0, []⟩⟩] none)

/-- Replacing `p` rebuilds the left side of the comparison and hands back its right side. -/
theorem substitute_exact_halfway :
    (halfway ⟨1, "p"⟩ ⟨2, "q"⟩).isProper = true ∧
      (∀ l ∈ (halfway ⟨1, "p"⟩ ⟨2, "q"⟩).lambdas,
        (replacement (param ⟨1, "p"⟩) ⟨3, "t"⟩ l.1).asParam? ≠ none) ∧
      ∃ s, replace (param ⟨1, "p"⟩) ⟨3, "t"⟩ (halfway ⟨1, "p"⟩ ⟨2, "q"⟩) = .ok s ∧
        s.result (halfway ⟨1, "p"⟩ ⟨2, "q"⟩) = halfway ⟨3, "t"⟩ ⟨2, "q"⟩ ∧
        ∀ n, (halfway ⟨1, "p"⟩ ⟨2, "q"⟩).at? [1] = some n →
          ∃ r, replace (param ⟨1, "p"⟩) ⟨3, "t"⟩ n = .ok r ∧ r.isKept = true := by
  have hkeeps : ∀ l ∈ (halfway ⟨1, "p"⟩ ⟨2, "q"⟩).lambdas,
      (replacement (param ⟨1, "p"⟩) ⟨3, "t"⟩ l.1).asParam? ≠ none := by
    rintro l hl
    cases List.mem_singleton.mp hl
    simp [replacement, asParam?]
  obtain ⟨-, -, hreplaces⟩ := substitute_exact .rebinder (replacement (param ⟨1, "p"⟩) ⟨3, "t"⟩)
    (e := halfway ⟨1, "p"⟩ ⟨2, "q"⟩) rfl
  obtain ⟨s, hs, hres, hshares⟩ := hreplaces hkeeps
  refine ⟨rfl, hkeeps, s, hs, hres, fun n hn => ?_⟩
  obtain ⟨r, hr, -, hkept⟩ := hshares [1] n hn
  refine ⟨r, hr, hkept.mpr ?_⟩
  cases hn
  simp [params, allParams, replacement, asParam?]

/-- The identity over `p`. -/
def identity (p : Param) : Expr := lambda (param p) (param p)

/-- A lambda that loses its parameter is not reported as such if what is there instead is a number with
one digit too many to be written, or if the name of the parameter is no text. -/
theorem substitute_unwritable :
    (identity ⟨1, "p"⟩).isProper = true ∧
      (⟨1, "p"⟩, param ⟨1, "p"⟩) ∈ (identity ⟨1, "p"⟩).lambdas ∧
      substitute .substitution (fun _ => const ⟨.int (10 ^ 4300), ⟨2, []⟩⟩) (identity ⟨1, "p"⟩) =
        .error (.fault .unwritableInteger) ∧
      substitute .substitution (fun _ => const ⟨.bool true, ⟨2, []⟩⟩) (identity ⟨1, .other "int" "5"⟩) =
        .error (.fault (.unwritableName "int")) := by
  have hlong : (Value.int (10 ^ 4300)).isWritable = false := by decide +kernel
  have hlost : ∀ d : Datum, d.value.isWritable = false →
      substitute .substitution (fun _ => const d) (identity ⟨1, "p"⟩) =
        .error (.fault .unwritableInteger) := by
    intro d hd
    have hfault : (const d).textFault? = some .unwritableInteger := by
      simp [textFault?, Value.fault?, hd]
    have hcause : (Unsupported.binderLost (const d) (identity ⟨1, "p"⟩)).fault? =
        some .unwritableInteger := by
      rw [Unsupported.fault?, hfault, Option.some_or]
    exact congrArg Except.error (Error.ofUnsupported_of_fault hcause)
  exact ⟨rfl, List.mem_singleton_self _, hlost ⟨.int (10 ^ 4300), ⟨2, []⟩⟩ hlong, rfl⟩

end Expr

end Criteria
