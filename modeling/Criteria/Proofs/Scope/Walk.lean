import Criteria.Expr.Walk
import Criteria.Proofs.Scope.Grammar

/-!
# Walks and scopes

`Expr.walk` goes through a tree with a stack of nodes still to visit.  What it visits is compared here
with what the analyses of scopes look at.

* `walk_eq_preorder` — the walk visits the nodes in the order of `Expr.preorder`.
* `forall_walk` — what is handed on from node to child holds all along the walk.
* `Expr.scopedWalk` — the walk in which every node comes with the parameters that are bound where it
  stands, and `Expr.freeReference`, the references that are not bound there.
* **`collectFree_eq_filterMap`** — collecting finds the free references of the walk, in its order.
* `check_eq_report_scopedWalk` — the check reports the first of them.
-/

namespace Criteria.Expr

/-! ## The stack -/

/-- Two stretches of a walk, one after the other. -/
def joined (a b : Except Fault (List Expr)) : Except Fault (List Expr) := do return (← a) ++ (← b)

section Joining

variable (a b c : Except Fault (List Expr))

lemma joined_nil : joined a (.ok []) = a := by
  cases a with
  | error f => rfl
  | ok ns => exact congrArg Except.ok (List.append_nil ns)

lemma joined_assoc : joined (joined a b) c = joined a (joined b c) := by
  cases a <;> cases b <;> cases c <;> first | rfl | exact congrArg Except.ok (List.append_assoc ..)

lemma map_cons_joined (e : Expr) :
    (do return e :: ((← a) ++ (← b))) = (joined a b).map (e :: ·) := by
  cases a <;> cases b <;> rfl

/-- What comes first stays first. -/
lemma joined_map_cons (e : Expr) : joined (a.map (e :: ·)) b = (joined a b).map (e :: ·) := by
  cases a <;> cases b <;> rfl

end Joining

lemma preorders_append (es fs : List Expr) :
    preorders (es ++ fs) = joined (preorders es) (preorders fs) := by
  induction es with
  | nil => cases h : preorders fs <;> simp [joined, preorders, h] <;> rfl
  | cons e es ih =>
      show joined (preorder e) (preorders (es ++ fs)) = _
      rw [ih, ← joined_assoc]
      rfl

/-- A node is visited before its children. -/
lemma preorder_of_children? {e : Expr} {cs : List Expr} (h : e.children? = .ok cs) :
    preorder e = (preorders cs).map (e :: ·) := by
  have one : ∀ a : Expr, preorders [a] = preorder a := fun a => joined_nil (preorder a)
  have two : ∀ a b : Expr, preorders [a, b] = joined (preorder a) (preorder b) := fun a b =>
    congrArg (joined (preorder a)) (one b)
  cases e with
  | param | const | unknown => cases h; rfl
  | member target name | tagged target name tag | not target =>
      cases h
      rw [one]
      rfl
  | call f args label => cases h; rfl
  | compare op l r | and l r | or l r | lambda l r =>
      cases h
      rw [two, ← map_cons_joined]
      rfl
  | cond t y n =>
      cases h
      have three : preorders [t, y, n] = joined (preorder t) (joined (preorder y) (preorder n)) :=
        congrArg (joined (preorder t)) (two y n)
      rw [three, ← map_cons_joined]
      rw [preorder]
      cases preorder t <;> cases preorder y <;> cases preorder n <;> rfl
  | raw d => cases h

lemma preorder_of_children?_error {e : Expr} {f : Fault} (h : e.children? = .error f) :
    preorder e = .error f := by
  cases e <;> cases h
  rfl

/-- Visiting a stack of nodes is to visit them one after the other. -/
theorem walkStack_eq_preorders (stack : List Expr) : walkStack stack = preorders stack := by
  fun_induction walkStack stack with
  | case1 => rfl
  | case2 e rest f h =>
      show _ = joined (preorder e) (preorders rest)
      rw [preorder_of_children?_error h]
      rfl
  | case3 e rest cs h visited hvisited ih =>
      show _ = joined (preorder e) (preorders rest)
      rw [preorder_of_children? h, joined_map_cons, ← preorders_append, ← ih, hvisited]
      rfl
  | case4 e rest cs h f hf ih =>
      show _ = joined (preorder e) (preorders rest)
      rw [preorder_of_children? h, joined_map_cons, ← preorders_append, ← ih, hf]
      rfl

/-- **The walk visits the nodes in preorder.** -/
theorem walk_eq_preorder (e : Expr) : e.walk = e.preorder := by
  rw [walk, walkStack_eq_preorders]
  exact joined_nil _

/-- What a node hands on to its children holds of all that the walk visits. -/
lemma forall_walkStack {P : Expr → Prop}
    (step : ∀ e cs, P e → e.children? = .ok cs → ∀ c ∈ cs, P c) :
    ∀ {stack nodes : List Expr}, walkStack stack = .ok nodes → (∀ e ∈ stack, P e) →
      ∀ e ∈ nodes, P e := by
  intro stack
  fun_induction walkStack stack with
  | case1 =>
      rintro _ ⟨⟩ -
      exact List.forall_mem_nil _
  | case2 | case4 => nofun
  | case3 e rest cs hchildren visited hwalk ih =>
      rintro _ ⟨⟩ hstack
      obtain ⟨he, hrest⟩ := List.forall_mem_cons.mp hstack
      have hpushed := List.forall_mem_append.mpr ⟨step e cs he hchildren, hrest⟩
      exact List.forall_mem_cons.mpr ⟨he, ih hwalk hpushed⟩

/-- **What is handed on from node to child** holds of every node that the walk visits if it holds of the
first one. -/
theorem forall_walk {P : Expr → Prop} (step : ∀ e cs, P e → e.children? = .ok cs → ∀ c ∈ cs, P c)
    {e : Expr} {nodes : List Expr} (walked : e.walk = .ok nodes) (he : P e) : ∀ n ∈ nodes, P n :=
  forall_walkStack step walked fun _ h => List.mem_singleton.mp h ▸ he

/-! ## Scopes along the walk -/

mutual

/-- The nodes of a tree in the order of the walk, each with the parameters that are bound where it
stands, the innermost first.  A binder stands in the scope that it opens. -/
def scopedWalk (scope : List Param) : Expr → List (List Param × Expr)
  | param p => [(scope, param p)]
  | const d => [(scope, const d)]
  | unknown d => [(scope, unknown d)]
  | raw d => [(scope, raw d)]
  | member target name => (scope, member target name) :: scopedWalk scope target
  | tagged target name tag => (scope, tagged target name tag) :: scopedWalk scope target
  | call f args label => (scope, call f args label) :: scopedWalks scope args
  | compare op l r => (scope, compare op l r) :: (scopedWalk scope l ++ scopedWalk scope r)
  | and l r => (scope, and l r) :: (scopedWalk scope l ++ scopedWalk scope r)
  | or l r => (scope, or l r) :: (scopedWalk scope l ++ scopedWalk scope r)
  | not e => (scope, not e) :: scopedWalk scope e
  | cond test yes no =>
    (scope, cond test yes no) ::
      (scopedWalk scope test ++ (scopedWalk scope yes ++ scopedWalk scope no))
  | lambda binder body =>
    (scope, lambda binder body) ::
      (scopedWalk (binder.asParam?.toList ++ scope) binder ++
        scopedWalk (binder.asParam?.toList ++ scope) body)

def scopedWalks (scope : List Param) : List Expr → List (List Param × Expr)
  | [] => []
  | e :: es => scopedWalk scope e ++ scopedWalks scope es

end

/-- The parameter to which a node refers, if it is not bound where the node stands. -/
def freeReference : List Param × Expr → Option Param
  | (scope, param p) => if scope.contains p then none else some p
  | _ => none

mutual

/-- The scoped walk visits what the walk visits. -/
theorem preorder_eq_scopedWalk : ∀ (scope : List Param) (e : Expr), e.isProper = true →
    preorder e = .ok ((scopedWalk scope e).map Prod.snd)
  | _, param _, _ | _, const _, _ => rfl
  | scope, member target _, h => by
      rw [preorder, preorder_eq_scopedWalk scope target h]
      rfl
  | scope, call _ args _, h => by
      rw [preorder, preorders_eq_scopedWalks scope args h]
      rfl
  | scope, compare _ l r, h | scope, and l r, h | scope, or l r, h => by
      simp only [isProper, Bool.and_eq_true] at h
      rw [preorder, preorder_eq_scopedWalk scope l h.1, preorder_eq_scopedWalk scope r h.2,
        scopedWalk, List.map_cons, List.map_append]
      rfl
  | scope, not e, h => by
      rw [preorder, preorder_eq_scopedWalk scope e h]
      rfl
  | scope, cond test yes no, h => by
      simp only [isProper, Bool.and_eq_true] at h
      rw [preorder, preorder_eq_scopedWalk scope test h.1, preorder_eq_scopedWalk scope yes h.2.1,
        preorder_eq_scopedWalk scope no h.2.2, scopedWalk, List.map_cons, List.map_append,
        List.map_append]
      rfl
  | scope, lambda binder body, h => by
      obtain ⟨p, rfl, hbody⟩ := isProper_lambda h
      rw [preorder, preorder_eq_scopedWalk (p :: scope) body hbody]
      rfl
  | _, tagged .., h | _, unknown _, h | _, raw _, h => by simp [isProper] at h

theorem preorders_eq_scopedWalks : ∀ (scope : List Param) (es : List Expr), allProper es = true →
    preorders es = .ok ((scopedWalks scope es).map Prod.snd)
  | _, [], _ => rfl
  | scope, e :: es, h => by
      simp only [allProper, Bool.and_eq_true] at h
      rw [preorders, preorder_eq_scopedWalk scope e h.1, preorders_eq_scopedWalks scope es h.2,
        scopedWalks, List.map_append]
      rfl

end

/-- Neither a lambda nor its binder is a free reference. -/
lemma filterMap_scopedWalk_lambda (scope : List Param) (p : Param) (body : Expr) :
    (scopedWalk scope (lambda (param p) body)).filterMap freeReference =
      (scopedWalk (p :: scope) body).filterMap freeReference := by
  have hbinder : freeReference (p :: scope, param p) = none := by simp [freeReference]
  show List.filterMap freeReference
    ((scope, lambda (param p) body) :: (p :: scope, param p) :: scopedWalk (p :: scope) body) = _
  rw [List.filterMap_cons_none rfl, List.filterMap_cons_none hbinder]

mutual

/-- **Collecting finds the free references of the walk**, in its order. -/
theorem collectFree_eq_filterMap : ∀ (scope : List Param) (e : Expr), e.isProper = true →
    collectFree scope e = .ok ((scopedWalk scope e).filterMap freeReference)
  | scope, param p, _ => by
      rw [collectFree, scopedWalk, List.filterMap_cons, freeReference]
      split_ifs <;> rfl
  | _, const _, _ => rfl
  | scope, member target _, h => collectFree_eq_filterMap scope target h
  | scope, call _ args _, h => collectFreeAll_eq_filterMap scope args h
  | scope, compare _ l r, h | scope, and l r, h | scope, or l r, h => by
      simp only [isProper, Bool.and_eq_true] at h
      rw [collectFree, collectFree_eq_filterMap scope l h.1, collectFree_eq_filterMap scope r h.2,
        scopedWalk, List.filterMap_cons_none rfl, List.filterMap_append]
      rfl
  | scope, not e, h => collectFree_eq_filterMap scope e h
  | scope, cond test yes no, h => by
      simp only [isProper, Bool.and_eq_true] at h
      rw [collectFree, collectFree_eq_filterMap scope test h.1,
        collectFree_eq_filterMap scope yes h.2.1, collectFree_eq_filterMap scope no h.2.2,
        scopedWalk, List.filterMap_cons_none rfl, List.filterMap_append, List.filterMap_append]
      rfl
  | scope, lambda binder body, h => by
      obtain ⟨p, rfl, hbody⟩ := isProper_lambda h
      rw [filterMap_scopedWalk_lambda]
      exact collectFree_eq_filterMap (p :: scope) body hbody
  | _, tagged .., h | _, unknown _, h | _, raw _, h => by simp [isProper] at h

theorem collectFreeAll_eq_filterMap : ∀ (scope : List Param) (es : List Expr),
    allProper es = true →
      collectFreeAll scope es = .ok ((scopedWalks scope es).filterMap freeReference)
  | _, [], _ => rfl
  | scope, e :: es, h => by
      simp only [allProper, Bool.and_eq_true] at h
      rw [collectFreeAll, collectFree_eq_filterMap scope e h.1,
        collectFreeAll_eq_filterMap scope es h.2, scopedWalks, List.filterMap_append]
      rfl

end

/-- Checking reports the first free reference of the walk. -/
theorem check_eq_report_scopedWalk {scope : List Param} {e : Expr} (proper : e.isProper = true) :
    check scope e = report ((scopedWalk scope e).filterMap freeReference) := by
  obtain ⟨free, hfree, hcheck⟩ := check_eq_report scope e proper
  rw [collectFree_eq_filterMap scope e proper] at hfree
  rw [hcheck, Except.ok.inj hfree]

/-- In a tree that passes the check every reference is bound where it stands. -/
lemma mem_scope_of_check {scope : List Param} {e : Expr} (proper : e.isProper = true)
    (closed : check scope e = .ok ()) {scope' : List Param} {p : Param}
    (visited : (scope', param p) ∈ scopedWalk scope e) : p ∈ scope' := by
  rw [check_eq_report_scopedWalk proper, report_eq_ok_iff, List.filterMap_eq_nil_iff] at closed
  have hbound := closed _ visited
  rw [freeReference] at hbound
  split_ifs at hbound with hmem
  exact List.contains_iff_mem.mp hmem

mutual

/-- Without lambdas inside, the scope is the same everywhere. -/
theorem scope_eq_of_binders_nil (scope : List Param) : ∀ e : Expr, e.isProper = true →
    e.binders = [] → ∀ a ∈ scopedWalk scope e, a.1 = scope
  | param _, _, _ | const _, _, _ => List.forall_mem_singleton.mpr rfl
  | member target _, h, hb =>
      List.forall_mem_cons.mpr ⟨rfl, scope_eq_of_binders_nil scope target h hb⟩
  | call _ args _, h, hb =>
      List.forall_mem_cons.mpr ⟨rfl, scope_eq_of_allBinders_nil scope args h hb⟩
  | compare _ l r, h, hb | and l r, h, hb | or l r, h, hb => by
      simp only [isProper, Bool.and_eq_true] at h
      obtain ⟨hl, hr⟩ := List.append_eq_nil_iff.mp hb
      refine List.forall_mem_cons.mpr ⟨rfl, List.forall_mem_append.mpr ⟨?_, ?_⟩⟩
      · exact scope_eq_of_binders_nil scope l h.1 hl
      · exact scope_eq_of_binders_nil scope r h.2 hr
  | not e, h, hb => List.forall_mem_cons.mpr ⟨rfl, scope_eq_of_binders_nil scope e h hb⟩
  | cond test yes no, h, hb => by
      simp only [isProper, Bool.and_eq_true] at h
      obtain ⟨htest, hb⟩ := List.append_eq_nil_iff.mp hb
      obtain ⟨hyes, hno⟩ := List.append_eq_nil_iff.mp hb
      refine List.forall_mem_cons.mpr ⟨rfl, List.forall_mem_append.mpr ⟨?_, ?_⟩⟩
      · exact scope_eq_of_binders_nil scope test h.1 htest
      · refine List.forall_mem_append.mpr ⟨?_, ?_⟩
        · exact scope_eq_of_binders_nil scope yes h.2.1 hyes
        · exact scope_eq_of_binders_nil scope no h.2.2 hno
  | lambda binder body, h, hb => by
      obtain ⟨p, rfl, -⟩ := isProper_lambda h
      cases hb
  | tagged .., h, _ | unknown _, h, _ | raw _, h, _ => by simp [isProper] at h

theorem scope_eq_of_allBinders_nil (scope : List Param) : ∀ es : List Expr,
    allProper es = true → allBinders es = [] → ∀ a ∈ scopedWalks scope es, a.1 = scope
  | [], _, _ => fun _ h => nomatch h
  | e :: es, h, hb => by
      simp only [allProper, Bool.and_eq_true] at h
      obtain ⟨he, hes⟩ := List.append_eq_nil_iff.mp hb
      refine List.forall_mem_append.mpr ⟨?_, ?_⟩
      · exact scope_eq_of_binders_nil scope e h.1 he
      · exact scope_eq_of_allBinders_nil scope es h.2 hes

end

end Criteria.Expr
