import Criteria.Proofs.Scope.Substitution
import Criteria.Proofs.Scope.Walk
import Mathlib.Data.List.Basic

/-!
# Occurrences in a tree

A position says to which child to go at each step.  So one position is one occurrence of a node, even if
the same object occurs elsewhere too, and a tree is known by what stands at its positions.

**The walk.**
* `children_induction` — induction on trees that knows children only, whatever kind their parent is of.
* `walk_eq_children` — a walk is the node, followed by the walks through its children.
* `Lists`, `exists_lists` — it visits every position once.  A position comes before those below it, and
  those below a child before those below the next one.

**Free parameters.**
* `IsFreeAt` — a parameter is referred to at a position and bound by no lambda above it.
* `mem_collectFree_iff` — collecting finds the parameters for which there is such a position.
* **`walk_traverses`** — both together.
-/

namespace Criteria.Expr

/-! ## Children -/

lemma nodeCount_le_nodeCounts {c : Expr} : ∀ {es : List Expr}, c ∈ es → c.nodeCount ≤ nodeCounts es
  | e :: es, h => by
      rw [nodeCounts]
      obtain rfl | h := List.mem_cons.mp h
      · omega
      · have := nodeCount_le_nodeCounts h
        omega

/-- What holds of a node as soon as it holds of its children holds of every tree. -/
theorem children_induction {P : Expr → Prop}
    (step : ∀ e, (∀ cs, e.children? = .ok cs → ∀ c ∈ cs, P c) → P e) (e : Expr) : P e :=
  step e fun _ hcs c hc =>
    have := nodeCount_of_children? hcs
    have := nodeCount_le_nodeCounts hc
    children_induction step c
termination_by e.nodeCount
decreasing_by omega

lemma at?_cons {e c : Expr} {cs : List Expr} {i : Nat} (hcs : e.children? = .ok cs)
    (hc : cs[i]? = some c) (position : List Nat) : e.at? (i :: position) = c.at? position := by
  simp only [at?, hcs, hc, Option.bind_some]

/-- What stands below a node stands below one of its children. -/
lemma exists_child_of_at? {e n : Expr} {i : Nat} {position : List Nat}
    (h : e.at? (i :: position) = some n) :
    ∃ cs c, e.children? = .ok cs ∧ cs[i]? = some c ∧ c.at? position = some n := by
  rw [at?] at h
  cases hcs : e.children? with
  | error f => simp [hcs] at h
  | ok cs =>
      rw [hcs] at h
      obtain ⟨c, hc, hn⟩ := Option.bind_eq_some_iff.mp h
      exact ⟨cs, c, rfl, hc, hn⟩

/-- Every node belongs to the grammar.  The binder of a lambda may be any of them. -/
def IsGrammatical (e : Expr) : Prop := ∀ position n, e.at? position = some n → n.kind? ≠ none

lemma IsGrammatical.children {e : Expr} (h : e.IsGrammatical) :
    ∃ cs, e.children? = .ok cs ∧ ∀ c ∈ cs, c.IsGrammatical := by
  have hkind : e.kind? ≠ none := h [] e rfl
  cases hcs : e.children? with
  | error f => cases e <;> simp_all [children?, kind?]
  | ok cs =>
      refine ⟨cs, rfl, fun c hc position n hn => ?_⟩
      obtain ⟨i, hi⟩ := List.mem_iff_getElem?.mp hc
      exact h (i :: position) n ((at?_cons hcs hi position).trans hn)

/-- Proper trees are among those of the grammar. -/
lemma isGrammatical_of_isProper {e : Expr} (proper : e.isProper = true) : e.IsGrammatical := by
  intro position n hn
  obtain ⟨hproper, -⟩ := isProper_of_at? position hn proper
  cases n <;> simp_all [isProper, kind?]

/-! ## The walk -/

lemma preorders_eq_mapM (es : List Expr) :
    preorders es = (es.mapM preorder).map List.flatten := by
  induction es with
  | nil => rfl
  | cons e es ih =>
      rw [preorders, ih, List.mapM_cons]
      cases preorder e <;> cases es.mapM preorder <;> rfl

/-- **A walk is the node itself, followed by the walks through its children** from left to right. -/
theorem walk_eq_children (e : Expr) :
    e.walk = do
      let cs ← e.children?
      let walks ← cs.mapM walk
      return e :: walks.flatten := by
  rw [show walk = preorder from funext walk_eq_preorder]
  cases hcs : e.children? with
  | error f => exact preorder_of_children?_error hcs
  | ok cs =>
      rw [preorder_of_children? hcs, preorders_eq_mapM]
      show _ = (do let walks ← cs.mapM preorder; return e :: walks.flatten)
      cases cs.mapM preorder <;> rfl

/-- Walks that all end can be made one after the other. -/
lemma exists_mapM_walk {cs : List Expr} (h : ∀ c ∈ cs, ∃ nodes, c.walk = .ok nodes) :
    ∃ walks, cs.mapM walk = .ok walks := by
  induction cs with
  | nil => exact ⟨[], rfl⟩
  | cons c cs ih =>
      obtain ⟨⟨nodes, hnodes⟩, hcs⟩ := List.forall_mem_cons.mp h
      obtain ⟨walks, hwalks⟩ := ih hcs
      exact ⟨nodes :: walks, by rw [List.mapM_cons, hnodes, hwalks]; rfl⟩

/-- The walk through a tree of the grammar ends. -/
theorem exists_walk {e : Expr} (h : e.IsGrammatical) :
    ∃ cs walks, e.children? = .ok cs ∧ cs.mapM walk = .ok walks ∧
      e.walk = .ok (e :: walks.flatten) := by
  induction e using children_induction with
  | step e ih =>
      obtain ⟨cs, hcs, hgrammatical⟩ := h.children
      have hwalk : ∀ c ∈ cs, ∃ nodes, c.walk = .ok nodes := by
        intro c hc
        obtain ⟨_, _, -, -, hc⟩ := ih cs hcs c hc (hgrammatical c hc)
        exact ⟨_, hc⟩
      obtain ⟨walks, hwalks⟩ := exists_mapM_walk hwalk
      refine ⟨cs, walks, hcs, hwalks, ?_⟩
      rw [walk_eq_children, hcs]
      show (do let walks ← cs.mapM walk; return e :: walks.flatten) = _
      rw [hwalks]
      rfl

/-! ## Positions in the order of the walk -/

/-- The positions at which something is found, in increasing order, and what is found there.  In this
order a position comes before those below it, and those below one child before those below the next. -/
structure Lists (find : List Nat → Option Expr) (positions : List (List Nat)) (nodes : List Expr) :
    Prop where
  increasing : positions.Pairwise (· < ·)
  complete : ∀ position, position ∈ positions ↔ (find position).isSome = true
  found : positions.map find = nodes.map some

/-- What stands below the children of a node, the first of which has the number `k`. -/
def under (k : Nat) (cs : List Expr) : List Nat → Option Expr
  | [] => none
  | i :: position => if k ≤ i then cs[i - k]?.bind (at? position) else none

lemma under_head (k : Nat) (c : Expr) (cs : List Expr) (position : List Nat) :
    under k (c :: cs) (k :: position) = c.at? position := by
  simp [under]

/-- Apart from the first child, there stands what is below the others. -/
lemma under_tail {k i : Nat} (h : i ≠ k) (c : Expr) (cs : List Expr) (position : List Nat) :
    under k (c :: cs) (i :: position) = under (k + 1) cs (i :: position) := by
  rcases Nat.lt_or_gt_of_ne h with hlt | hgt
  · simp [under, Nat.not_le.mpr hlt, Nat.not_le.mpr (Nat.lt_succ_of_lt hlt)]
  · have hindex : i - k = i - (k + 1) + 1 := by omega
    simp [under, hgt.le, Nat.succ_le_of_lt hgt, hindex]

/-- First what is below the first child is listed, then what is below the others. -/
lemma Lists.cons {k : Nat} {c : Expr} {cs : List Expr} {first rest : List (List Nat)}
    {nodes others : List Expr} (h : Lists (c.at? ·) first nodes)
    (hrest : Lists (under (k + 1) cs) rest others) :
    Lists (under k (c :: cs)) (first.map (k :: ·) ++ rest) (nodes ++ others) := by
  have later : ∀ position ∈ rest, ∃ i position', position = i :: position' ∧ k < i := by
    intro position hposition
    have hsome := (hrest.complete position).mp hposition
    cases position with
    | nil => simp [under] at hsome
    | cons i position' =>
        refine ⟨i, position', rfl, ?_⟩
        by_contra hi
        have hle : ¬ k + 1 ≤ i := by omega
        simp [under, hle] at hsome
  refine ⟨?_, ?_, ?_⟩
  · refine List.pairwise_append.mpr ⟨?_, hrest.increasing, ?_⟩
    · exact List.pairwise_map.mpr (h.increasing.imp fun hlt => List.Lex.cons hlt)
    · intro a ha b hb
      obtain ⟨position, -, rfl⟩ := List.mem_map.mp ha
      obtain ⟨i, position', rfl, hi⟩ := later b hb
      exact List.Lex.rel hi
  · intro position
    rw [List.mem_append, List.mem_map]
    cases position with
    | nil =>
        have hnil := hrest.complete []
        simp [under] at hnil ⊢
        exact hnil
    | cons i position =>
        by_cases hi : i = k
        · subst hi
          have hnot : i :: position ∉ rest := by
            intro hmem
            obtain ⟨j, position', heq, hj⟩ := later _ hmem
            cases heq
            exact lt_irrefl _ hj
          rw [under_head, ← h.complete]
          simp [hnot]
        · rw [under_tail hi, ← hrest.complete]
          simp [Ne.symm hi]
  · rw [List.map_append, List.map_append, ← h.found, ← hrest.found, List.map_map]
    congr 1
    · exact List.map_congr_left fun position _ => under_head k c cs position
    · refine List.map_congr_left fun position hposition => ?_
      obtain ⟨i, position', rfl, hi⟩ := later position hposition
      exact under_tail hi.ne' c cs position'

/-- The walks through the children of a node list what is below it. -/
lemma exists_lists_under {cs : List Expr} {walks : List (List Expr)} (k : Nat)
    (hwalks : cs.mapM walk = .ok walks)
    (h : ∀ c ∈ cs, ∀ nodes, c.walk = .ok nodes → ∃ positions, Lists (c.at? ·) positions nodes) :
    ∃ positions, Lists (under k cs) positions walks.flatten := by
  induction cs generalizing k walks with
  | nil =>
      cases hwalks
      refine ⟨[], List.Pairwise.nil, fun position => ?_, rfl⟩
      cases position <;> simp [under]
  | cons c cs ih =>
      obtain ⟨hc, hcs⟩ := List.forall_mem_cons.mp h
      rw [List.mapM_cons] at hwalks
      obtain ⟨nodes, hnodes, hwalks⟩ := bind_eq_ok.mp hwalks
      obtain ⟨others, hothers, hwalks⟩ := bind_eq_ok.mp hwalks
      cases hwalks
      obtain ⟨first, hfirst⟩ := hc nodes hnodes
      obtain ⟨rest, hrest⟩ := ih (k + 1) hothers hcs
      exact ⟨_, hfirst.cons hrest⟩

/-- **The walk visits every position once**, in increasing order. -/
theorem exists_lists {e : Expr} {nodes : List Expr} (h : e.walk = .ok nodes) :
    ∃ positions, Lists (e.at? ·) positions nodes := by
  induction e using children_induction generalizing nodes with
  | step e ih =>
      rw [walk_eq_children] at h
      obtain ⟨cs, hcs, h⟩ := bind_eq_ok.mp h
      obtain ⟨walks, hwalks, h⟩ := bind_eq_ok.mp h
      cases h
      obtain ⟨positions, hpositions⟩ := exists_lists_under 0 hwalks fun c hc _ hnodes =>
        ih cs hcs c hc hnodes
      have hunder : ∀ i position, e.at? (i :: position) = under 0 cs (i :: position) := by
        intro i position
        simp [at?, under, hcs]
      have proper : ∀ position ∈ positions, ∃ i position', position = i :: position' := by
        intro position hposition
        have hsome := (hpositions.complete position).mp hposition
        cases position with
        | nil => simp [under] at hsome
        | cons i position' => exact ⟨i, position', rfl⟩
      refine ⟨[] :: positions, ?_, ?_, ?_⟩
      · refine List.pairwise_cons.mpr ⟨fun position hposition => ?_, hpositions.increasing⟩
        obtain ⟨i, position', rfl⟩ := proper position hposition
        exact List.Lex.nil
      · intro position
        cases position with
        | nil => simp [at?]
        | cons i position => rw [hunder, ← hpositions.complete]; simp
      · rw [List.map_cons, List.map_cons, ← hpositions.found]
        congr 1
        refine List.map_congr_left fun position hposition => ?_
        obtain ⟨i, position', rfl⟩ := proper position hposition
        exact hunder i position'

/-! ## Free parameters -/

/-- The parameter is referred to at the position and free there: it stands at the position, which is not
in the place of a binder, and no lambda above binds it. -/
structure IsFreeAt (e : Expr) (position : List Nat) (p : Param) : Prop where
  occurs : e.at? position = some (param p)
  reference : ∀ outer rest binder body, position = outer ++ 0 :: rest →
    e.at? outer ≠ some (lambda binder body)
  unbound : ∀ outer i rest body, position = outer ++ i :: rest →
    e.at? outer ≠ some (lambda (param p) body)

section Steps

variable {e c : Expr} {cs : List Expr} {i : Nat} {position : List Nat} {p : Param}

lemma isFreeAt_nil_iff : e.IsFreeAt [] p ↔ e = param p := by
  constructor
  · intro h
    exact Option.some.inj h.occurs
  · rintro rfl
    exact ⟨rfl, by simp, by simp⟩

/-- One step down: what is free in a child is free in the node, unless the node is a lambda that binds it
or has the child as its binder. -/
lemma isFreeAt_cons_iff (hcs : e.children? = .ok cs) (hc : cs[i]? = some c) :
    e.IsFreeAt (i :: position) p ↔
      c.IsFreeAt position p ∧ ∀ binder body, e = lambda binder body → i ≠ 0 ∧ binder ≠ param p := by
  have hdown : ∀ position, e.at? (i :: position) = c.at? position := at?_cons hcs hc
  constructor
  · intro h
    refine ⟨⟨?_, ?_, ?_⟩, ?_⟩
    · rw [← hdown]
      exact h.occurs
    · intro outer rest binder body hposition
      rw [← hdown]
      exact h.reference (i :: outer) rest binder body (by rw [hposition, List.cons_append])
    · intro outer j rest body hposition
      rw [← hdown]
      exact h.unbound (i :: outer) j rest body (by rw [hposition, List.cons_append])
    · rintro binder body rfl
      constructor
      · rintro rfl
        exact h.reference [] position binder body rfl rfl
      · rintro rfl
        exact h.unbound [] i position body rfl rfl
  · rintro ⟨h, hlambda⟩
    refine ⟨(hdown position).trans h.occurs, ?_, ?_⟩
    · rintro (_ | ⟨j, outer⟩) rest binder body hposition
      · obtain ⟨rfl, rfl⟩ := List.cons.inj hposition
        intro hroot
        exact (hlambda binder body (Option.some.inj hroot)).1 rfl
      · obtain ⟨rfl, rfl⟩ := List.cons.inj hposition
        rw [hdown]
        exact h.reference outer rest binder body rfl
    · rintro (_ | ⟨j, outer⟩) k rest body hposition
      · intro hroot
        exact (hlambda (param p) body (Option.some.inj hroot)).2 rfl
      · obtain ⟨rfl, rfl⟩ := List.cons.inj hposition
        rw [hdown]
        exact h.unbound outer k rest body rfl

lemma IsFreeAt.exists_child (h : e.IsFreeAt (i :: position) p) (hcs : e.children? = .ok cs) :
    ∃ c, cs[i]? = some c := by
  obtain ⟨cs', c, hcs', hc, -⟩ := exists_child_of_at? h.occurs
  rw [hcs, Except.ok.injEq] at hcs'
  subst hcs'
  exact ⟨c, hc⟩

/-- Free in a node that is no parameter and no lambda is what is free in one of its children. -/
lemma exists_isFreeAt_iff (hcs : e.children? = .ok cs) (hparam : ∀ q, e ≠ param q)
    (hlambda : ∀ binder body, e ≠ lambda binder body) :
    (∃ position, e.IsFreeAt position p) ↔ ∃ c ∈ cs, ∃ position, c.IsFreeAt position p := by
  constructor
  · rintro ⟨_ | ⟨i, position⟩, h⟩
    · exact absurd (isFreeAt_nil_iff.mp h) (hparam p)
    · obtain ⟨c, hc⟩ := h.exists_child hcs
      exact ⟨c, List.mem_of_getElem? hc, position, ((isFreeAt_cons_iff hcs hc).mp h).1⟩
  · rintro ⟨c, hmem, position, h⟩
    obtain ⟨i, hc⟩ := List.mem_iff_getElem?.mp hmem
    refine ⟨i :: position, (isFreeAt_cons_iff hcs hc).mpr ⟨h, ?_⟩⟩
    intro binder body he
    exact absurd he (hlambda binder body)

/-- Free in a lambda is what is free in its body, but for its own parameter. -/
lemma exists_isFreeAt_lambda_iff {binder body : Expr} :
    (∃ position, (lambda binder body).IsFreeAt position p) ↔
      binder ≠ param p ∧ ∃ position, body.IsFreeAt position p := by
  have hcs : (lambda binder body).children? = .ok [binder, body] := rfl
  constructor
  · rintro ⟨_ | ⟨i, position⟩, h⟩
    · cases isFreeAt_nil_iff.mp h
    · obtain ⟨c, hc⟩ := h.exists_child hcs
      obtain ⟨hfree, hbound⟩ := (isFreeAt_cons_iff hcs hc).mp h
      obtain ⟨hi, hbinder⟩ := hbound binder body rfl
      obtain rfl : i = 1 := by
        have := (List.getElem?_eq_some_iff.mp hc).1
        simp at this
        omega
      cases hc
      exact ⟨hbinder, position, hfree⟩
  · rintro ⟨hbinder, position, h⟩
    have hc : [binder, body][1]? = some body := rfl
    refine ⟨1 :: position, (isFreeAt_cons_iff hcs hc).mpr ⟨h, ?_⟩⟩
    rintro _ _ ⟨⟩
    exact ⟨by decide, hbinder⟩

end Steps

/-- From a node that is no parameter and no lambda, collecting goes on to its children. -/
lemma collectFree_eq_children {bound : List Param} {e : Expr} {cs : List Expr}
    (hcs : e.children? = .ok cs) (hparam : ∀ q, e ≠ param q)
    (hlambda : ∀ binder body, e ≠ lambda binder body) :
    collectFree bound e = collectFreeAll bound cs := by
  have one : ∀ a : Expr, collectFreeAll bound [a] = collectFree bound a := by
    intro a
    rw [collectFreeAll, collectFreeAll]
    cases collectFree bound a with
    | error f => rfl
    | ok ps => exact congrArg Except.ok (List.append_nil ps)
  have more : ∀ (a : Expr) (es : List Expr), collectFreeAll bound (a :: es) =
      do return (← collectFree bound a) ++ (← collectFreeAll bound es) := fun _ _ => rfl
  cases e with
  | param p => exact absurd rfl (hparam p)
  | lambda binder body => exact absurd rfl (hlambda binder body)
  | const | unknown => cases hcs; rfl
  | raw => cases hcs
  | call => cases hcs; rfl
  | member | tagged | not =>
      cases hcs
      rw [one]
      rfl
  | compare | and | or =>
      cases hcs
      rw [more, one]
      rfl
  | cond test yes no =>
      cases hcs
      rw [more, more, one, collectFree]
      cases collectFree bound test <;> cases collectFree bound yes <;> cases collectFree bound no <;> rfl

/-- Collected from several nodes is what is collected from one of them. -/
lemma mem_collectFreeAll_iff {bound : List Param} {q : Param} {P : Expr → Prop} {es : List Expr}
    {free : List Param} (h : collectFreeAll bound es = .ok free)
    (each : ∀ e ∈ es, ∀ part, collectFree bound e = .ok part → (q ∈ part ↔ P e)) :
    q ∈ free ↔ ∃ e ∈ es, P e := by
  induction es generalizing free with
  | nil =>
      cases h
      simp
  | cons e es ih =>
      obtain ⟨he, hes⟩ := List.forall_mem_cons.mp each
      obtain ⟨part, hpart, h⟩ := bind_eq_ok.mp h
      obtain ⟨others, hothers, h⟩ := bind_eq_ok.mp h
      cases h
      rw [List.mem_append, he part hpart, ih hothers hes]
      simp

/-- **Collecting finds the free parameters**: those that are free at some position and not bound from
outside. -/
theorem mem_collectFree_iff {bound : List Param} {e : Expr} {free : List Param}
    (h : collectFree bound e = .ok free) (q : Param) :
    q ∈ free ↔ q ∉ bound ∧ ∃ position, e.IsFreeAt position q := by
  induction e using children_induction generalizing bound free with
  | step e ih =>
      by_cases hparam : ∃ p, e = param p
      · obtain ⟨p, rfl⟩ := hparam
        cases h
        have hroot : (∃ position, (param p).IsFreeAt position q) ↔ p = q := by
          constructor
          · rintro ⟨_ | ⟨i, position⟩, h⟩
            · exact param.inj (isFreeAt_nil_iff.mp h)
            · obtain ⟨c, hc⟩ := h.exists_child rfl
              cases hc
          · rintro rfl
            exact ⟨[], isFreeAt_nil_iff.mpr rfl⟩
        rw [hroot]
        split_ifs with hbound
        · rw [List.contains_iff_mem] at hbound
          simp only [List.not_mem_nil, false_iff, not_and]
          rintro hq rfl
          exact hq hbound
        · rw [List.contains_iff_mem] at hbound
          rw [List.mem_singleton]
          constructor
          · rintro rfl
            exact ⟨hbound, rfl⟩
          · rintro ⟨-, rfl⟩
            rfl
      by_cases hlambda : ∃ binder body, e = lambda binder body
      · obtain ⟨binder, body, rfl⟩ := hlambda
        obtain ⟨-, -, hbody⟩ := bind_eq_ok.mp h
        rw [exists_isFreeAt_lambda_iff, ih _ rfl body (by simp) hbody]
        have hbinder : q ∈ binder.asParam?.toList ↔ binder = param q := by
          cases binder <;> simp [asParam?, eq_comm]
        rw [List.mem_append, hbinder]
        tauto
      · simp only [not_exists] at hparam hlambda
        cases hcs : e.children? with
        | error f =>
            cases e <;> simp [children?] at hcs
            cases h
        | ok cs =>
            rw [collectFree_eq_children hcs hparam hlambda] at h
            rw [exists_isFreeAt_iff hcs hparam hlambda, mem_collectFreeAll_iff h fun c hc part hpart =>
              ih cs hcs c hc hpart]
            tauto

/-- Every binder may be looked up in a set, as every parameter may. -/
def HasHashableBinders (e : Expr) : Prop :=
  ∀ position binder body, e.at? position = some (lambda binder body) → binder.hashable = .ok ()

lemma HasHashableBinders.child {e c : Expr} {cs : List Expr} (h : e.HasHashableBinders)
    (hcs : e.children? = .ok cs) (hc : c ∈ cs) : c.HasHashableBinders := by
  intro position binder body hn
  obtain ⟨i, hi⟩ := List.mem_iff_getElem?.mp hc
  exact h (i :: position) binder body ((at?_cons hcs hi position).trans hn)

lemma hasHashableBinders_of_isProper {e : Expr} (proper : e.isProper = true) :
    e.HasHashableBinders := by
  intro position binder body hn
  obtain ⟨p, rfl, -⟩ := isProper_lambda (isProper_of_at? position hn proper).1
  rfl

/-- Collecting goes through every tree of the grammar. -/
theorem exists_collectFree (bound : List Param) {e : Expr} (grammatical : e.IsGrammatical)
    (hashable : e.HasHashableBinders) : ∃ free, collectFree bound e = .ok free := by
  induction e using children_induction generalizing bound with
  | step e ih =>
      obtain ⟨cs, hcs, hgrammatical⟩ := grammatical.children
      have hchild : ∀ c ∈ cs, ∀ bound, ∃ free, collectFree bound c = .ok free := fun c hc bound =>
        ih cs hcs c hc bound (hgrammatical c hc) (hashable.child hcs hc)
      by_cases hparam : ∃ p, e = param p
      · obtain ⟨p, rfl⟩ := hparam
        exact ⟨_, rfl⟩
      by_cases hlambda : ∃ binder body, e = lambda binder body
      · obtain ⟨binder, body, rfl⟩ := hlambda
        cases hcs
        obtain ⟨free, hfree⟩ := hchild body (by simp) (binder.asParam?.toList ++ bound)
        exact ⟨free, bind_eq_ok.mpr ⟨(), hashable [] binder body rfl, hfree⟩⟩
      · simp only [not_exists] at hparam hlambda
        rw [collectFree_eq_children hcs hparam hlambda]
        clear hcs hgrammatical ih
        induction cs with
        | nil => exact ⟨[], rfl⟩
        | cons c cs ih =>
            obtain ⟨hc, hcs⟩ := List.forall_mem_cons.mp hchild
            obtain ⟨part, hpart⟩ := hc bound
            obtain ⟨others, hothers⟩ := ih hcs
            exact ⟨part ++ others, by rw [collectFreeAll, hpart, hothers]; rfl⟩

/-! ## Both together -/

/-- **The walk and the free parameters by positions.**  The walk through a tree of the grammar ends.  It
visits the node itself and then what the walks through its children visit, from left to right: that is
every position once, in increasing order.  If the tree is the body of a lambda, the free parameters of the
lambda are those that are referred to at one of these positions and bound by no lambda above it, save the
lambda's own. -/
theorem walk_traverses {e : Expr} (grammatical : e.IsGrammatical) :
    ∃ cs walks positions, e.children? = .ok cs ∧ cs.mapM walk = .ok walks ∧
      e.walk = .ok (e :: walks.flatten) ∧ Lists (e.at? ·) positions (e :: walks.flatten) ∧
      ∀ binder : Expr, binder.hashable = .ok () → e.HasHashableBinders →
        ∃ free, freeParams binder e = .ok free ∧
          ∀ q, q ∈ free ↔ binder ≠ param q ∧ ∃ position ∈ positions, e.IsFreeAt position q := by
  obtain ⟨cs, walks, hcs, hwalks, hwalk⟩ := exists_walk grammatical
  obtain ⟨positions, hpositions⟩ := exists_lists hwalk
  refine ⟨cs, walks, positions, hcs, hwalks, hwalk, hpositions, fun binder hbinder hbinders => ?_⟩
  obtain ⟨free, hfree⟩ := exists_collectFree binder.asParam?.toList grammatical hbinders
  refine ⟨free.eraseDups, ?_, fun q => ?_⟩
  · rw [freeParams, hbinder, hfree]
    rfl
  · have hown : q ∉ binder.asParam?.toList ↔ binder ≠ param q := by
      cases binder <;> simp [asParam?, eq_comm]
    have hmet : ∀ position, e.IsFreeAt position q → position ∈ positions := by
      intro position h
      rw [hpositions.complete, h.occurs]
      rfl
    rw [List.mem_eraseDups, mem_collectFree_iff hfree, hown]
    refine and_congr_right fun _ => ⟨?_, ?_⟩
    · rintro ⟨position, h⟩
      exact ⟨position, hmet position h, h⟩
    · rintro ⟨position, -, h⟩
      exact ⟨position, h⟩

/-- The function over `t` that compares its argument with `p`, applied to `t`. -/
def overshadowed (p t : Param) : Expr :=
  call (.function ⟨"apply", "apply", "<function apply at 0x?>"⟩)
    [lambda (param t) (compare .eq (param t) (param p)), param t] none

/-- As the body of a lambda over `p` it leaves `t` free: the walk meets `t` three times, and only the last
time as a free reference. -/
theorem walk_traverses_overshadowed :
    let e := overshadowed ⟨1, "p"⟩ ⟨2, "t"⟩
    e.IsGrammatical ∧ (param ⟨1, "p"⟩).hashable = .ok () ∧ e.HasHashableBinders ∧
      (∃ walks, e.walk = .ok (e :: walks.flatten) ∧ walks =
        [[lambda (param ⟨2, "t"⟩) (compare .eq (param ⟨2, "t"⟩) (param ⟨1, "p"⟩)), param ⟨2, "t"⟩,
            compare .eq (param ⟨2, "t"⟩) (param ⟨1, "p"⟩), param ⟨2, "t"⟩, param ⟨1, "p"⟩],
          [param ⟨2, "t"⟩]]) ∧
      ∃ free, freeParams (param ⟨1, "p"⟩) e = .ok free ∧ ⟨2, "t"⟩ ∈ free ∧ ⟨1, "p"⟩ ∉ free := by
  intro e
  have proper : e.isProper = true := rfl
  have grammatical := isGrammatical_of_isProper proper
  have hbinders := hasHashableBinders_of_isProper proper
  obtain ⟨cs, walks, positions, hcs, hwalks, hwalk, hpositions, hfree⟩ := walk_traverses grammatical
  obtain ⟨free, hfree, hmem⟩ := hfree (param ⟨1, "p"⟩) rfl hbinders
  refine ⟨grammatical, rfl, hbinders, ⟨walks, hwalk, ?_⟩, free, hfree, ?_, ?_⟩
  · rw [show walk = preorder from funext walk_eq_preorder] at hwalks
    cases hcs
    cases hwalks
    rfl
  · have hlast : e.IsFreeAt [1] ⟨2, "t"⟩ := by
      refine (isFreeAt_cons_iff rfl rfl).mpr ⟨isFreeAt_nil_iff.mpr rfl, ?_⟩
      exact fun _ _ => nofun
    refine (hmem _).mpr ⟨by simp, [1], ?_, hlast⟩
    rw [hpositions.complete, hlast.occurs]
    rfl
  · intro h
    exact ((hmem _).mp h).1 rfl

end Criteria.Expr
