import Criteria.Proofs.Sql.Printing
import Criteria.Proofs.Sql.Query

/-!
# Constants as parameters

The constants of a filter reach a query as the values that are passed beside its text.

**What a specification says about its query.**
* `Spec.frame` — the query without its values.  It does not depend on the constants.
* `Spec.slots` — the values that the query passes, leaf by leaf.
* `Parametric` — the specifications made of filters whose constants are passed.
* **`ofLambda_frame`** — the query has this frame and these slots, by induction on the condition.

**Two runs.**
* `SameShape` — two such specifications that differ only in their constants.
* **`render_sameShape`** — their queries have one text and the same names for values; the values are
  the constants.
-/

namespace Criteria

open Sql (EntityClass Column Clause Slots relation? escapeWildcards acceptsConstant isPassed)

/-! ## Frames and slots -/

namespace Sql

/-- Whether the constant is passed beside a query: it is neither null nor a truth value. -/
def passes (op : CompareOp) (d : Datum) : Bool :=
  match op with
  | .same | .notSame => false
  | _ => acceptsConstant op d && isPassed d.value

/-- The value that is passed for a constant.  A text to look for is escaped, and a collection is listed. -/
def passedValue (op : CompareOp) (d : Datum) : Value :=
  match op, d.value with
  | .contains, .str s => .str (escapeWildcards s)
  | .isIn, _ => .list (((d.iterate).toOption.getD []).map (·.value))
  | _, v => v

/-- The clause for a comparison of a column with a value that is passed, without the value. -/
def blankTest (op : CompareOp) (c : Column) : Clause :=
  match relation? op, op with
  | some r, _ => .comparison r (.column c) (.bind c.name .none)
  | none, .isIn => .within false (.column c) c.name []
  | none, .contains => .contains false (.column c) (.bind c.name .none)
  | none, _ => .like false (.column c) (.bind c.name .none)

/-- The column that a member of the entity is. -/
def columnOf? (root : EntityClass) : Expr → Option Column
  | .member _ name =>
    match root.attribute? name with
    | some (.column c) => some c
    | _ => none
  | _ => none

/-- The values passed for a comparison of a member with a constant. -/
def comparisonSlots (root : EntityClass) (op : CompareOp) : Expr → Expr → Slots
  | l, .const d => (columnOf? root l).toList.map fun c => (c.name, passedValue op d)
  | _, _ => []

end Sql

/-- The clause for a condition, without its values. -/
def Expr.frame (root : EntityClass) : Expr → Clause
  | compare op l _ => ((Sql.columnOf? root l).map (Sql.blankTest op)).getD .null
  | and l r => .connect .and (l.frame root) (r.frame root)
  | or l r => .connect .or (l.frame root) (r.frame root)
  | not e => (e.frame root).negate
  | _ => .null

/-- The values passed for a condition. -/
def Expr.slots (root : EntityClass) : Expr → Slots
  | compare op l r => Sql.comparisonSlots root op l r
  | and l r | or l r => l.slots root ++ r.slots root
  | not e => e.slots root
  | _ => []

namespace Combination

/-- Two clauses combined. -/
def clause (x y : Clause) : Combination → Clause
  | and => .connect .and x y
  | or => .connect .or x y
  | nand => .connect .or x.negate y.negate
  | nor => .connect .and x.negate y.negate

lemma clause_of_negates {c : Combination} (h : c.negates = true) (x y : Clause) :
    c.clause x y = c.plain.clause x.negate y.negate := by
  cases c with
  | and | or => cases h
  | nand | nor => rfl

lemma clause_of_not_negates {c : Combination} (h : c.negates = false) (x y : Clause) :
    c.clause x y = c.plain.clause x y := by
  cases c with
  | and | or => rfl
  | nand | nor => cases h

lemma frame_connective (root : EntityClass) (c : Combination) (a b : Expr) :
    (c.connective a b).frame root = c.plain.clause (a.frame root) (b.frame root) := by
  cases c <;> rfl

lemma slots_connective (root : EntityClass) (c : Combination) (a b : Expr) :
    (c.connective a b).slots root = a.slots root ++ b.slots root := by
  cases c <;> rfl

end Combination

namespace Spec

/-- The query for a specification, without its values. -/
def frame (root : EntityClass) : Spec → Clause
  | tree l => l.body.frame root
  | combine c l r => c.clause (l.frame root) (r.frame root)
  | negated s => (s.frame root).negate
  | everything | predicate .. | template .. => .null

/-- The values passed for a specification. -/
def slots (root : EntityClass) : Spec → Slots
  | tree l => l.body.slots root
  | combine _ l r => l.slots root ++ r.slots root
  | negated s => s.slots root
  | everything | predicate .. | template .. => []

end Spec

namespace Sql

variable {root : EntityClass}

/-! ## Comparisons -/

/-- The clause is a test with the given frame and slots. -/
structure Clause.Framed (x frame : Clause) (slots : Slots) : Prop where
  test : x.isTest = true
  blank : x.blank = frame
  slots : x.slots = slots

namespace Clause.Framed

variable {x y f g : Clause} {s t : Slots}

lemma negate (h : x.Framed f s) : x.negate.Framed f.negate s where
  test := isTest_negate x h.test
  blank := by rw [blank_negate, h.blank]
  slots := (slots_negate x).trans h.slots

lemma connect (k : Connective) (hx : x.Framed f s) (hy : y.Framed g t) :
    (Clause.connect k x y).Framed (.connect k f g) (s ++ t) where
  test := isTest_connect k hx.test hy.test
  blank := by rw [blank_connect k hx.test hy.test, hx.blank, hy.blank]
  slots := by rw [slots_connect k hx.test hy.test, hx.slots, hy.slots]

end Clause.Framed

section Comparisons

variable {op : CompareOp} {d : Datum} {v : Value}

lemma shown_of_isPassed (h : isPassed v = true) : shown v = .none := by
  cases v <;> first | rfl | cases h

lemma isPassed_of_passes (h : passes op d = true) : isPassed d.value = true := by
  cases op with
  | same | notSame => cases h
  | eq | ne => exact h
  | _ => exact (Bool.and_eq_true_iff.mp h).2

/-- A text is passed in every comparison but a test for sameness and a membership. -/
lemma passes_text (hop : op ∉ [.same, .notSame, .isIn]) (s : String) (o : Origin) :
    passes op ⟨.str s, o⟩ = true := by
  cases op <;> first | rfl | exact absurd (by decide) hop

/-- A constant that is passed in a comparison of a relation. -/
lemma compareOperands_passed {r : Relation} (hr : relation? op = some r) (c : Column)
    (hd : isPassed d.value = true) :
    compareOperands op (.clause (.column c)) (.value d) =
      .ok (.clause (.comparison r (.column c) (.bind c.name d.value))) := by
  obtain ⟨w, o⟩ := d
  unfold compareOperands
  rw [hr]
  cases w with
  | none | bool b => cases hd
  | _ => rfl

/-- **The clause for a comparison does not depend on the constant**, which is passed. -/
theorem compareOperands_framed (c : Column) (h : passes op d = true) :
    ∃ x, compareOperands op (.clause (.column c)) (.value d) = .ok (.clause x) ∧
      x.Framed (blankTest op c) [(c.name, passedValue op d)] := by
  have related : ∀ {r : Relation}, relation? op = some r → passedValue op d = d.value →
      isPassed d.value = true →
      ∃ x, compareOperands op (.clause (.column c)) (.value d) = .ok (.clause x) ∧
        x.Framed (blankTest op c) [(c.name, passedValue op d)] := by
    intro r hr hvalue hd
    refine ⟨_, compareOperands_passed hr c hd, ⟨rfl, ?_, ?_⟩⟩
    · rw [Clause.blank_comparison, Clause.blank, Clause.blank, shown_of_isPassed hd]
      simp only [blankTest, hr]
    · rw [Clause.slots_comparison, hvalue]
      rfl
  cases op with
  | same | notSame => cases h
  | eq | ne | lt | le | gt | ge =>
      exact related rfl rfl (isPassed_of_passes h)
  | isIn =>
      obtain ⟨haccepted, -⟩ := Bool.and_eq_true_iff.mp h
      cases hitems : d.iterate with
      | error f =>
          rw [acceptsConstant, hitems] at haccepted
          cases haccepted
      | ok items =>
          refine ⟨_, bind_eq_ok.mpr ⟨items, hitems, rfl⟩, rfl, rfl, ?_⟩
          rw [passedValue, hitems]
          rfl
  | contains =>
      obtain ⟨w, o⟩ := d
      cases w with
      | str s => exact ⟨_, rfl, rfl, rfl, rfl⟩
      | _ => cases h
  | like =>
      obtain ⟨w, o⟩ := d
      cases w with
      | none | bool b => cases h
      | _ => exact ⟨_, rfl, rfl, rfl, rfl⟩

end Comparisons

/-! ## Conditions -/

/-- Conditions over the parameter `p` that compare columns with constants that are passed. -/
inductive PassedBody (root : EntityClass) (p : Param) : Expr → Prop where
  | compare {op : CompareOp} {name : String} {c : Column} {d : Datum} :
      root.attribute? name = some (.column c) → passes op d = true →
      PassedBody root p (.compare op (.member (.param p) name) (.const d))
  | and {l r : Expr} : PassedBody root p l → PassedBody root p r → PassedBody root p (.and l r)
  | or {l r : Expr} : PassedBody root p l → PassedBody root p r → PassedBody root p (.or l r)
  | not {e : Expr} : PassedBody root p e → PassedBody root p (.not e)

namespace PassedBody

variable {p t : Param} {a b : Expr}

lemma connective (c : Combination) (ha : PassedBody root p a) (hb : PassedBody root p b) :
    PassedBody root p (c.connective a b) := by
  cases c with
  | and | nor => exact .and ha hb
  | or | nand => exact .or ha hb

lemma isProper (h : PassedBody root p a) : a.isProper = true := by
  induction h with
  | compare => rfl
  | and _ _ ihl ihr | or _ _ ihl ihr => rw [Expr.isProper, ihl, ihr]; rfl
  | not _ ih => exact ih

/-- Over another parameter the condition is of the same form. -/
lemma rebound (t : Param) (h : PassedBody root p a) : PassedBody root t (Expr.rebound p t a) := by
  have hparam : Expr.replacement (.param p) t p = .param t := by
    rw [Expr.replacement_eq_redirect, Expr.redirect_source]
  induction h with
  | compare hname hd =>
      rw [Expr.rebound, Expr.mapParams, Expr.mapParams, Expr.mapParams, Expr.mapParams, hparam]
      exact .compare hname hd
  | and _ _ ihl ihr => exact .and ihl ihr
  | or _ _ ihl ihr => exact .or ihl ihr
  | not _ ih => exact .not ih

/-- Neither the frame nor the values depend on the parameter. -/
lemma frame_rebound (t : Param) (h : PassedBody root p a) :
    (Expr.rebound p t a).frame root = a.frame root := by
  induction h with
  | compare => rfl
  | and _ _ ihl ihr => exact congrArg₂ (Clause.connect .and) ihl ihr
  | or _ _ ihl ihr => exact congrArg₂ (Clause.connect .or) ihl ihr
  | not _ ih => exact congrArg Clause.negate ih

lemma slots_rebound (t : Param) (h : PassedBody root p a) :
    (Expr.rebound p t a).slots root = a.slots root := by
  induction h with
  | compare => rfl
  | and _ _ ihl ihr | or _ _ ihl ihr => exact congrArg₂ (· ++ ·) ihl ihr
  | not _ ih => exact ih

/-- **A condition has a clause, with the frame and the values of the condition.** -/
theorem ofLambda_framed (h : PassedBody root p a) :
    ∃ x, Clause.ofLambda root ⟨.param p, a⟩ = .ok x ∧ x.Framed (a.frame root) (a.slots root) := by
  induction h with
  | @compare op name c d hname hd =>
      obtain ⟨x, hx, hframed⟩ := compareOperands_framed c hd
      have hcolumn : columnOf? root (.member (.param p) name) = some c := by rw [columnOf?, hname]
      refine ⟨x, ?_, ?_⟩
      · rw [ofLambda_compare hname, hx]
        rfl
      · rw [Expr.frame, Expr.slots, comparisonSlots, hcolumn]
        exact hframed
  | and _ _ ihl ihr =>
      obtain ⟨x, hx, hxFramed⟩ := ihl
      obtain ⟨y, hy, hyFramed⟩ := ihr
      refine ⟨.connect .and x y, ?_, hxFramed.connect .and hyFramed⟩
      rw [ofLambda_and, hx, hy]
      rfl
  | or _ _ ihl ihr =>
      obtain ⟨x, hx, hxFramed⟩ := ihl
      obtain ⟨y, hy, hyFramed⟩ := ihr
      refine ⟨.connect .or x y, ?_, hxFramed.connect .or hyFramed⟩
      rw [ofLambda_or, hx, hy]
      rfl
  | not _ ih =>
      obtain ⟨x, hx, hframed⟩ := ih
      refine ⟨x.negate, ?_, hframed.negate⟩
      rw [ofLambda_not, hx]
      rfl

end PassedBody

/-! ## Specifications -/

/-- The specifications made of filters on columns whose constants are passed. -/
inductive Parametric (root : EntityClass) : Spec → Prop where
  | compareField {name : String} {c : Column} {op : CompareOp} {d : Datum} {n n' : Nat} {s : Spec} :
      IsColumn root name c → op ≠ .isIn → passes op d = true →
      (Spec.compareField op (.str name) d).run n = .ok (s, n') → Parametric root s
  | oneOf {name : String} {c : Column} {d : Datum} {n n' : Nat} {s : Spec} :
      IsColumn root name c → (Spec.oneOf (.str name) d).run n = .ok (s, n') → Parametric root s
  | combine (c : Combination) {l r : Spec} :
      Parametric root l → Parametric root r → Parametric root (.combine c l r)
  | negated {s : Spec} : Parametric root s → Parametric root (.negated s)

/-- A condition that a specification stands for. -/
structure FramedBy (root : EntityClass) (s : Spec) (p : Param) (body : Expr) : Prop where
  form : PassedBody root p body
  frame : body.frame root = s.frame root
  slots : body.slots root = s.slots root

namespace FramedBy

variable {s l r : Spec} {p q : Param} {a b : Expr}

/-- The parameter may be another one. -/
lemma rebound (t : Param) (h : FramedBy root s p a) :
    FramedBy root s t (Expr.rebound p t a) where
  form := h.form.rebound t
  frame := (h.form.frame_rebound t).trans h.frame
  slots := (h.form.slots_rebound t).trans h.slots

lemma negated (h : FramedBy root s p a) : FramedBy root (.negated s) p (.not a) where
  form := .not h.form
  frame := congrArg Clause.negate h.frame
  slots := h.slots

lemma connective (c : Combination) (hl : FramedBy root l p a) (hr : FramedBy root r p b) :
    FramedBy root (.combine c.plain l r) p (c.connective a b) where
  form := .connective c hl.form hr.form
  frame := by rw [Combination.frame_connective, hl.frame, hr.frame, Spec.frame]
  slots := by rw [Combination.slots_connective, hl.slots, hr.slots, Spec.slots]

/-- Joining two conditions that specifications stand for. -/
lemma combine (c : Combination) (hl : FramedBy root l p a) (hr : FramedBy root r q b) :
    ∃ body, FramedBy root (.combine c l r) p body ∧
      Lambda.merge c.connective (Lambda.operand c ⟨.param p, a⟩) (Lambda.operand c ⟨.param q, b⟩) =
        .ok ⟨.param p, body⟩ := by
  have hb := hr.rebound p
  cases hneg : c.negates with
  | true =>
      have h := hl.negated.connective c hb.negated
      refine ⟨_, ⟨h.form, ?_, h.slots⟩, ?_⟩
      · exact h.frame.trans (Combination.clause_of_negates hneg _ _).symm
      · rw [Lambda.operand_of_negates hneg, Lambda.operand_of_negates hneg]
        exact Lambda.merge_eq_connective c (.not a) (b := .not b) hr.form.isProper
  | false =>
      have h := hl.connective c hb
      refine ⟨_, ⟨h.form, ?_, h.slots⟩, ?_⟩
      · exact h.frame.trans (Combination.clause_of_not_negates hneg _ _).symm
      · rw [Lambda.operand_of_not_negates hneg, Lambda.operand_of_not_negates hneg]
        exact Lambda.merge_eq_connective c a hr.form.isProper

end FramedBy

section Translation

variable {name : String} {c : Column} {d : Datum} {n n' : Nat} {s : Spec}

/-- A membership filter keeps a collection that can be passed. -/
lemma eq_of_oneOf (hname : IsColumn root name c)
    (h : (Spec.oneOf (.str name) d).run n = .ok (s, n')) :
    ∃ kept, passes .isIn kept = true ∧ s = .tree ⟨.param ⟨n, Param.defaultName⟩,
      .compare .isIn (.member (.param ⟨n, Param.defaultName⟩) name) (.const kept)⟩ := by
  rw [Spec.oneOf] at h
  cases hitems : d.iterate with
  | error f =>
      rw [hitems] at h
      cases h
  | ok items =>
      rw [hitems] at h
      refine ⟨_, ?_, eq_of_onField hname h⟩
      obtain ⟨w, o⟩ := d
      cases w <;> rfl

/-- **The lambda of a specification has the frame and the values of the specification.** -/
theorem Parametric.toLambda (form : Parametric root s) (n : Nat) :
    ∃ p body, s.toLambda.run n = .ok (⟨.param p, body⟩, n) ∧ FramedBy root s p body := by
  induction form generalizing n with
  | compareField hname _ hd hrun =>
      obtain rfl := eq_of_onField hname hrun
      exact ⟨_, _, rfl, .compare hname.column hd, rfl, rfl⟩
  | oneOf hname hrun =>
      obtain ⟨kept, hkept, rfl⟩ := eq_of_oneOf hname hrun
      exact ⟨_, _, rfl, .compare hname.column hkept, rfl, rfl⟩
  | @combine c l r _ _ ihl ihr =>
      obtain ⟨p, a, hl, ha⟩ := ihl n
      obtain ⟨q, b, hr, hb⟩ := ihr n
      obtain ⟨body, hbody, hmerge⟩ := ha.combine c hb
      exact ⟨p, body, Spec.toLambda_combine hl hr hmerge, hbody⟩
  | negated _ ih =>
      obtain ⟨p, body, hrun, hbody⟩ := ih n
      exact ⟨p, .not body, Spec.toLambda_negated hrun, hbody.negated⟩

/-- **The query for a specification**, which exists, has its frame and passes its values. -/
theorem Parametric.ofLambda (form : Parametric root s) (n : Nat) :
    ∃ l x, s.toLambda.run n = .ok (l, n) ∧ Clause.ofLambda root l = .ok x ∧
      x.Framed (s.frame root) (s.slots root) := by
  obtain ⟨p, body, hrun, hbody⟩ := form.toLambda n
  obtain ⟨x, hx, hframed⟩ := hbody.form.ofLambda_framed
  rw [hbody.frame, hbody.slots] at hframed
  exact ⟨_, x, hrun, hx, hframed⟩

end Translation

/-! ## Two runs -/

/-- Specifications that differ only in the constants of their filters.  Collections may even differ in
length, as a query passes each one as a whole. -/
inductive SameShape (root : EntityClass) : Spec → Spec → Prop where
  | compareField {name : String} {c : Column} {op : CompareOp} {d d' : Datum} {n n' m m' : Nat}
      {s s' : Spec} :
      IsColumn root name c → op ≠ .isIn → passes op d = true → passes op d' = true →
      (Spec.compareField op (.str name) d).run n = .ok (s, n') →
      (Spec.compareField op (.str name) d').run m = .ok (s', m') → SameShape root s s'
  | oneOf {name : String} {c : Column} {d d' : Datum} {n n' m m' : Nat} {s s' : Spec} :
      IsColumn root name c → (Spec.oneOf (.str name) d).run n = .ok (s, n') →
      (Spec.oneOf (.str name) d').run m = .ok (s', m') → SameShape root s s'
  | combine (c : Combination) {l l' r r' : Spec} :
      SameShape root l l' → SameShape root r r' →
      SameShape root (.combine c l r) (.combine c l' r')
  | negated {s s' : Spec} : SameShape root s s' → SameShape root (.negated s) (.negated s')

namespace SameShape

variable {s s' : Spec}

lemma symm (h : SameShape root s s') : SameShape root s' s := by
  induction h with
  | compareField hname hop hd hd' hrun hrun' => exact .compareField hname hop hd' hd hrun' hrun
  | oneOf hname hrun hrun' => exact .oneOf hname hrun' hrun
  | combine c _ _ ihl ihr => exact .combine c ihl ihr
  | negated _ ih => exact .negated ih

lemma left (h : SameShape root s s') : Parametric root s := by
  induction h with
  | compareField hname hop hd _ hrun _ => exact .compareField hname hop hd hrun
  | oneOf hname hrun _ => exact .oneOf hname hrun
  | combine c _ _ ihl ihr => exact .combine c ihl ihr
  | negated _ ih => exact .negated ih

/-- The frame does not depend on the constants. -/
lemma frame_eq (h : SameShape root s s') : s.frame root = s'.frame root := by
  induction h with
  | compareField hname _ _ _ hrun hrun' =>
      rw [eq_of_onField hname hrun, eq_of_onField hname hrun']
      rfl
  | oneOf hname hrun hrun' =>
      obtain ⟨kept, -, rfl⟩ := eq_of_oneOf hname hrun
      obtain ⟨kept', -, rfl⟩ := eq_of_oneOf hname hrun'
      rfl
  | combine c _ _ ihl ihr => rw [Spec.frame, ihl, ihr, Spec.frame]
  | negated _ ih => rw [Spec.frame, ih, Spec.frame]

/-- Nor do the names under which values are passed. -/
lemma bases_eq (h : SameShape root s s') :
    (s.slots root).map Prod.fst = (s'.slots root).map Prod.fst := by
  have leaf : ∀ {l : Expr} {op : CompareOp} {d d' : Datum},
      (comparisonSlots root op l (.const d)).map Prod.fst =
        (comparisonSlots root op l (.const d')).map Prod.fst := by
    intro l op d d'
    rw [comparisonSlots, comparisonSlots, List.map_map, List.map_map]
    rfl
  induction h with
  | compareField hname _ _ _ hrun hrun' =>
      rw [eq_of_onField hname hrun, eq_of_onField hname hrun']
      exact leaf
  | oneOf hname hrun hrun' =>
      obtain ⟨kept, -, rfl⟩ := eq_of_oneOf hname hrun
      obtain ⟨kept', -, rfl⟩ := eq_of_oneOf hname hrun'
      exact leaf
  | combine c _ _ ihl ihr => rw [Spec.slots, List.map_append, ihl, ihr, Spec.slots, List.map_append]
  | negated _ ih => exact ih

end SameShape

/-- Two texts with values passed beside them that agree but for the values, which are those of the
slots. -/
structure AgreeButFor (slots slots' : Slots) (q q' : String × Binds) : Prop where
  text : q.1 = q'.1
  names : q.2.map Prod.fst = names (slots.map Prod.fst)
  names' : q'.2.map Prod.fst = q.2.map Prod.fst
  values : q.2.map Prod.snd = slots.map Prod.snd
  values' : q'.2.map Prod.snd = slots'.map Prod.snd

lemma agree_of_blank {x x' : Clause} (hblank : x.blank = x'.blank)
    (hbases : x.slots.map Prod.fst = x'.slots.map Prod.fst) :
    AgreeButFor x.slots x'.slots x.render x'.render where
  text := by rw [x.render_text, x'.render_text, hblank]
  names := x.render_names
  names' := by rw [x'.render_names, x.render_names, hbases]
  values := x.render_values
  values' := x'.render_values

/-- Around the condition nothing depends on the values either. -/
lemma AgreeButFor.selection {x x' : Clause} {s s' : Slots} (key : Column)
    (h : AgreeButFor s s' (x.protect .condition).render (x'.protect .condition).render) :
    AgreeButFor s s' (Selection.mk key x).render (Selection.mk key x').render where
  text := by
    show _ ++ (x.protect .condition).render.1 = _ ++ (x'.protect .condition).render.1
    rw [h.text]
  names := h.names
  names' := h.names'
  values := h.values
  values' := h.values'

/-- **Constants reach a query only as values that are passed.**  Two specifications that differ only in
the constants of their filters have queries, alone and in a selection of rows, with the same text and
the same names for values.  The values are those of the leaves, in their order. -/
theorem render_sameShape {s s' : Spec} (h : SameShape root s s') (n n' : Nat) :
    ∃ l l' x x', s.toLambda.run n = .ok (l, n) ∧ s'.toLambda.run n' = .ok (l', n') ∧
      Clause.ofLambda root l = .ok x ∧ Clause.ofLambda root l' = .ok x' ∧
      AgreeButFor (s.slots root) (s'.slots root) x.render x'.render ∧
      ∀ key, AgreeButFor (s.slots root) (s'.slots root) (Selection.mk key x).render
        (Selection.mk key x').render := by
  obtain ⟨l, x, hl, hx, hframed⟩ := h.left.ofLambda n
  obtain ⟨l', x', hl', hx', hframed'⟩ := h.symm.left.ofLambda n'
  have hblank : x.blank = x'.blank := by rw [hframed.blank, hframed'.blank, h.frame_eq]
  have hbases : x.slots.map Prod.fst = x'.slots.map Prod.fst := by
    rw [hframed.slots, hframed'.slots, h.bases_eq]
  have hagree := agree_of_blank hblank hbases
  have hselected := @agree_of_blank (x.protect .condition) (x'.protect .condition)
    (by rw [Clause.blank_protect, Clause.blank_protect, hblank])
    (by rw [Clause.slots_protect, Clause.slots_protect, hbases])
  rw [Clause.slots_protect, Clause.slots_protect] at hselected
  rw [hframed.slots, hframed'.slots] at hagree hselected
  exact ⟨l, l', x, x', hl, hl', hx, hx', hagree, fun key => hselected.selection key⟩

/-- People whose name holds a text, unless they have one of some roles or a name like another text. -/
def directory (part pattern : String) (roles : List Value) : Spec :=
  .combine .nor
    (.negated (.tree ⟨.param ⟨2, Param.defaultName⟩,
      .compare .contains (.member (.param ⟨2, Param.defaultName⟩) "name") (.const ⟨.str part, ⟨0, []⟩⟩)⟩))
    (.combine .or
      (.tree ⟨.param ⟨3, Param.defaultName⟩,
        .compare .isIn (.member (.param ⟨3, Param.defaultName⟩) "role")
          (.const ⟨.tuple roles, ⟨1, []⟩⟩)⟩)
      (.tree ⟨.param ⟨4, Param.defaultName⟩,
        .compare .like (.member (.param ⟨4, Param.defaultName⟩) "name")
          (.const ⟨.str pattern, ⟨0, []⟩⟩)⟩))

lemma sameShape_directory (part part' pattern pattern' : String) (roles roles' : List Value) :
    SameShape .user (directory part pattern roles) (directory part' pattern' roles') := by
  have hname : IsColumn .user "name" ⟨"spec_users", "name", .text, false⟩ := ⟨by decide, rfl⟩
  have hrole : IsColumn .user "role" ⟨"spec_users", "role", .text, false⟩ := ⟨by decide, rfl⟩
  have holds : ∀ text, (Spec.compareField .contains (.str "name") ⟨.str text, ⟨0, []⟩⟩).run 2 =
      .ok (_, 3) := fun text => rfl
  have hlike : ∀ text, (Spec.compareField .like (.str "name") ⟨.str text, ⟨0, []⟩⟩).run 4 =
      .ok (_, 5) := fun text => rfl
  have hone : ∀ items, (Spec.oneOf (.str "role") ⟨.tuple items, ⟨1, []⟩⟩).run 3 = .ok (_, 4) :=
    fun items => rfl
  exact .combine .nor
    (.negated (.compareField hname (by decide) (passes_text (by decide) part _)
      (passes_text (by decide) part' _) (holds part) (holds part')))
    (.combine .or (.oneOf hrole (hone roles) (hone roles'))
      (.compareField hname (by decide) (passes_text (by decide) pattern _)
        (passes_text (by decide) pattern' _) (hlike pattern) (hlike pattern')))

/-- Constants with quotes, wildcards and comments leave the text as it is. -/
theorem render_sameShape_directory :
    let plain := directory "Ada" "A%" [.str "admin"]
    let hostile := directory "%' OR 1=1 --" ")" [.str "x'); DROP TABLE spec_users"]
    SameShape .user plain hostile ∧
      ∃ l l' x x', plain.toLambda.run 5 = .ok (l, 5) ∧ hostile.toLambda.run 5 = .ok (l', 5) ∧
        Clause.ofLambda .user l = .ok x ∧ Clause.ofLambda .user l' = .ok x' ∧
        x.render.1 = x'.render.1 ∧
        x'.render.2 = [("name_1", .str "/%' OR 1=1 --"),
          ("role_1", .list [.str "x'); DROP TABLE spec_users"]), ("name_2", .str ")")] := by
  intro plain hostile
  have hshape : SameShape .user plain hostile := sameShape_directory _ _ _ _ _ _
  obtain ⟨l, l', x, x', hl, hl', hx, hx', hagree, -⟩ := render_sameShape hshape 5 5
  refine ⟨hshape, l, l', x, x', hl, hl', hx, hx', hagree.text, ?_⟩
  cases hl'
  cases hx'
  rfl

end Sql

end Criteria
