import Criteria.Eval.Compile
import Criteria.Proofs.Eval.Congruence
import Criteria.Proofs.Scope.AlphaEq

/-!
# Items and runs that cannot be told apart

A function can be called, passed on and compared with others, but nobody sees its tree.  Two functions
with one serial number and alpha-equivalent trees are therefore *similar*, and so are runs which do
the same from worlds that look alike.

* `World.seen` — what can be seen of a world: the recorded data in full, recorded functions by their
  serial number, and the number of the next object.
* `Item.Similarity` — the relations between items that look the same, whatever their trees.
* `Item.Sim`, `Frame.Sim` — similar items, and frames of similar items whose parameters are paired.
* **`Run.Sim`** — similar runs.  They have similar results or one fault, and leave worlds that look
  alike.
* `Script.run_sim` — a script sees no difference between arguments that look the same.
-/

namespace Criteria

open Criteria.Expr

/-! ## What can be seen -/

/-- What can be seen of an item. -/
def Item.seen : Item → Arg
  | .datum d => .datum d
  | .closure serial .. => .handle serial

/-- What can be seen of a world. -/
def World.seen (w : World) : List Arg × Nat := (w.log.map Item.seen, w.next)

namespace Item

variable {a a' b b' : Item}

lemma truthy_of_seen (h : a.seen = a'.seen) : a.truthy = a'.truthy := by
  cases a <;> cases a' <;> cases h <;> rfl

lemma contains_of_seen (h : a.seen = a'.seen) (k : b.seen = b'.seen) :
    a.contains b = a'.contains b' := by
  cases a <;> cases a' <;> cases h <;> cases b <;> cases b' <;> cases k <;> rfl

/-- An order reads a function's name alone, and of a datum whether it is a read-only mapping. -/
lemma ordered_of_seen (op : Inequality) (h : a.seen = a'.seen) (k : b.seen = b'.seen) :
    a.ordered op b = a'.ordered op b' := by
  cases a with
  | datum d =>
      cases a' <;> cases h
      cases b <;> cases b' <;> cases k
      · rfl
      · obtain ⟨v, origin⟩ := d
        cases v <;> rfl
  | closure =>
      cases a' <;> cases h
      cases b with
      | datum d =>
          cases b' <;> cases k
          obtain ⟨v, origin⟩ := d
          cases v <;> rfl
      | closure =>
          cases b' <;> cases k
          rfl

/-- Every comparison comes out alike on operands that look the same. -/
lemma holds_of_seen (op : CompareOp) (h : a.seen = a'.seen) (k : b.seen = b'.seen) :
    op.holds a b = op.holds a' b' := by
  cases op with
  | eq | ne | like | same | notSame =>
      cases a <;> cases a' <;> cases h <;> cases b <;> cases b' <;> cases k <;> rfl
  | lt | le | gt | ge => exact ordered_of_seen _ h k
  | isIn => exact contains_of_seen k h
  | contains => exact contains_of_seen h k

lemma read_of_seen (props : EvaluationProperties) (name : String) (h : a.seen = a'.seen) :
    props.read name a = props.read name a' := by
  cases a <;> cases a' <;> cases h <;> rfl

/-- A relation between items that look the same.  Every datum is related to itself. -/
structure Similarity (R : Item → Item → Prop) : Prop where
  datum : ∀ d : Datum, R (.datum d) (.datum d)
  seen : ∀ {a a' : Item}, R a a' → a.seen = a'.seen

namespace Similarity

variable {R : Item → Item → Prop}

lemma absent (hR : Similarity R) (props : EvaluationProperties) (f : Fault) :
    Outcome.Sim R (props.absent f) (props.absent f) := by
  unfold EvaluationProperties.absent
  cases props.missingMember with
  | fails => exact .error f
  | isNone => exact .ok (hR.datum _)

/-- A member is a datum. -/
lemma read (hR : Similarity R) (props : EvaluationProperties) (name : String) (i : Item) :
    Outcome.Sim R (props.read name i) (props.read name i) := by
  cases i with
  | closure => exact hR.absent props _
  | datum d =>
      simp only [EvaluationProperties.read]
      split_ifs
      · cases d.lookup? name with
        | none => exact hR.absent props _
        | some part => exact .ok (hR.datum part)
      · cases d.attribute? name with
        | none => exact hR.absent props _
        | some part => exact .ok (hR.datum part)

/-- The steps of evaluation look at what can be seen. -/
lemma congruence (hR : Similarity R) : Congruence R where
  constant _ := hR.datum _
  truthy h := truthy_of_seen (hR.seen h)
  holds op _ _ _ _ h k := holds_of_seen op (hR.seen h) (hR.seen k)
  read props name _ _ h := by
    rw [read_of_seen props name (hR.seen h)]
    exact hR.read props name _

end Similarity

end Item

/-! ## Similar items -/

mutual

/-- Similar items: one datum, or functions made at the same moment from alpha-equivalent lambdas. -/
inductive Item.Sim : Item → Item → Prop where
  | datum {d : Datum} : Item.Sim (.datum d) (.datum d)
  | closure {serial : Nat} {Γ : Pairing} {b b' e e' : Expr} {fr fr' : List (Param × Item)} :
      AlphaEq Γ (lambda b e) (lambda b' e') → Frame.Sim Γ fr fr' →
      Item.Sim (.closure serial b e fr) (.closure serial b' e' fr')

/-- Frames that bind paired parameters to similar items. -/
inductive Frame.Sim : Pairing → List (Param × Item) → List (Param × Item) → Prop where
  | nil : Frame.Sim [] [] []
  | cons {Γ : Pairing} {p q : Param} {i i' : Item} {fr fr' : List (Param × Item)} :
      Item.Sim i i' → Frame.Sim Γ fr fr' →
      Frame.Sim ((p, q) :: Γ) ((p, i) :: fr) ((q, i') :: fr')

end

mutual

theorem Item.Sim.refl : ∀ i : Item, Item.Sim i i
  | .datum _ => .datum
  | .closure _ b e fr => .closure (AlphaEq.refl (fr.map Prod.fst) (lambda b e)) (Frame.Sim.refl fr)

theorem Frame.Sim.refl : ∀ fr : List (Param × Item),
    Frame.Sim ((fr.map Prod.fst).map fun q => (q, q)) fr fr
  | [] => .nil
  | (_, i) :: fr => .cons (Item.Sim.refl i) (Frame.Sim.refl fr)

end

namespace Item.Sim

lemma similarity : Similarity Item.Sim where
  datum _ := .datum
  seen h := by cases h <;> rfl

lemma truthy_eq {a a' : Item} (h : Item.Sim a a') : a.truthy = a'.truthy :=
  truthy_of_seen (similarity.seen h)

end Item.Sim

/-- Parameters that belong together stand for similar items, or are one free parameter. -/
lemma Frame.Sim.lookup {Γ : Pairing} {fr fr' : Frame} (h : Frame.Sim Γ fr fr') {p q : Param}
    (together : Γ.Relates p q) :
    (∃ i i', List.lookup p fr = some i ∧ List.lookup q fr' = some i' ∧ Item.Sim i i') ∨
      (List.lookup p fr = none ∧ List.lookup q fr' = none ∧ p = q) := by
  induction fr generalizing Γ fr' with
  | nil =>
      cases h
      exact .inr ⟨rfl, rfl, together⟩
  | cons head fr ih =>
      cases h with
      | @cons Γ a b i i' _ fr' hi hfr =>
          by_cases bound : a = p ∨ b = q
          · obtain ⟨rfl, rfl⟩ := (Pairing.relates_cons_of_bound bound).mp together
            exact .inl ⟨i, i', List.lookup_cons_self, List.lookup_cons_self, hi⟩
          · obtain ⟨hp, hq⟩ := not_or.mp bound
            have htail := (Pairing.relates_cons_of_ne hp hq).mp together
            rw [List.lookup_cons, List.lookup_cons, beq_eq_false_iff_ne.mpr (Ne.symm hp),
              beq_eq_false_iff_ne.mpr (Ne.symm hq)]
            exact ih hfr htail

/-! ## Similar runs -/

/-- Similar runs, with results that are related by `R`. -/
def Run.Sim {α β : Type} (R : α → β → Prop) (m : Run α) (m' : Run β) : Prop :=
  ∀ w w' : World, w.seen = w'.seen →
    Outcome.Sim R (m.run w).1 (m'.run w').1 ∧ (m.run w).2.seen = (m'.run w').2.seen

namespace Run.Sim

variable {α β γ δ : Type} {R : α → β → Prop} {S : γ → δ → Prop}

lemma pure {a : α} {b : β} (h : R a b) : Run.Sim R (Pure.pure a) (Pure.pure b) :=
  Related.pure h

lemma throw (f : Fault) : Run.Sim R (MonadExcept.throw f) (MonadExcept.throw f) :=
  Related.throw f

/-- Similar runs go on similarly. -/
lemma bind {m : Run α} {m' : Run β} {k : α → Run γ} {k' : β → Run δ} (h : Run.Sim R m m')
    (hk : ∀ a b, R a b → Run.Sim S (k a) (k' b)) : Run.Sim S (m >>= k) (m' >>= k') :=
  Related.bind h hk

lemma trans {m m' m'' : Run α} (h : Run.Sim Eq m m') (h' : Run.Sim Eq m' m'') :
    Run.Sim Eq m m'' := by
  intro w w'' hw
  obtain ⟨hres, hworld⟩ := h w w rfl
  obtain ⟨hres', hworld'⟩ := h' w w'' hw
  rw [hres.eq, hres'.eq]
  exact ⟨Outcome.Sim.refl (fun _ => rfl) _, hworld.trans hworld'⟩

lemma symm {m m' : Run α} (h : Run.Sim Eq m m') : Run.Sim Eq m' m := by
  intro w w' hw
  obtain ⟨hres, hworld⟩ := h w' w hw.symm
  rw [hres.eq]
  exact ⟨Outcome.Sim.refl (fun _ => rfl) _, hworld.symm⟩

lemma ofExcept {r : Except Fault α} {r' : Except Fault β} (h : Outcome.Sim R r r') :
    Run.Sim R (Run.ofExcept r) (Run.ofExcept r') :=
  Related.ofExcept h

lemma allocate : Run.Sim Eq Run.allocate Run.allocate := by
  intro w w' hw
  obtain ⟨hlog, hnext⟩ := Prod.mk.inj hw
  refine ⟨.ok hnext, ?_⟩
  show ((w.log.map Item.seen, w.next + 1) : List Arg × Nat) = (w'.log.map Item.seen, w'.next + 1)
  rw [hlog, hnext]

lemma record {tag tag' : Item} (h : tag.seen = tag'.seen) :
    Run.Sim Eq (Run.record tag) (Run.record tag') := by
  intro w w' hw
  obtain ⟨hlog, hnext⟩ := Prod.mk.inj hw
  refine ⟨.ok rfl, ?_⟩
  show ((tag.seen :: w.log.map Item.seen, w.next) : List Arg × Nat) =
    (tag'.seen :: w'.log.map Item.seen, w'.next)
  rw [h, hlog, hnext]

/-- A new object is one object in both runs. -/
lemma fresh {Q : Item → Item → Prop} (hQ : Item.Similarity Q) (v : Value) :
    Run.Sim Q (Run.fresh v) (Run.fresh v) :=
  bind allocate fun n _ h => by rw [h]; exact pure (hQ.datum _)

lemma observe {m : Run α} {m' : Run β} (h : Run.Sim R m m') :
    Run.Sim (Outcome.Sim R) m.observe m'.observe :=
  Related.observe h

end Run.Sim

/-! ## Scripts -/

namespace Script

variable {R : Item → Item → Prop} {table table' : List Item}

lemma resolve_sim (hR : Item.Similarity R) (h : List.Forall₂ R table table') :
    ∀ a : Arg, R (resolve table a) (resolve table' a)
  | .datum d => hR.datum d
  | .handle n => by
      rw [resolve, resolve]
      induction h generalizing n with
      | nil => exact hR.datum _
      | cons hi _ ih =>
          cases n with
          | zero => exact hi
          | succ n => exact ih n

/-- Items that look the same are presented under one argument. -/
lemma present_sim (hR : Item.Similarity R) (h : List.Forall₂ R table table') {i i' : Item}
    (hi : R i i') :
    (present table i).1 = (present table' i').1 ∧
      List.Forall₂ R (present table i).2 (present table' i').2 := by
  have hseen := hR.seen hi
  cases i with
  | datum d =>
      cases i' <;> cases hseen
      exact ⟨rfl, h⟩
  | closure =>
      cases i' <;> cases hseen
      refine ⟨by simp only [present, h.length_eq], ?_⟩
      exact List.rel_append h (.cons hi .nil)

lemma presentAll_sim (hR : Item.Similarity R) (h : List.Forall₂ R table table') {is is' : List Item}
    (his : List.Forall₂ R is is') :
    (presentAll table is).1 = (presentAll table' is').1 ∧
      List.Forall₂ R (presentAll table is).2 (presentAll table' is').2 := by
  induction his generalizing table table' with
  | nil => exact ⟨rfl, h⟩
  | cons hi _ ih =>
      obtain ⟨harg, htable⟩ := present_sim hR h hi
      obtain ⟨hargs, htables⟩ := ih htable
      refine ⟨?_, htables⟩
      simp only [presentAll]
      rw [harg, hargs]

/-- **A script cannot tell items apart that look the same.** -/
theorem run_sim (hR : Item.Similarity R) {apply apply' : Item → Item → Run Item}
    (happly : ∀ f f' x x', R f f' → R x x' → Run.Sim R (apply f x) (apply' f' x')) :
    ∀ (s : Script) {table table' : List Item}, List.Forall₂ R table table' →
      Run.Sim R (s.run apply table) (s.run apply' table')
  | answer a, _, _, h => .pure (resolve_sim hR h a)
  | fail f, _, _, _ => .throw f
  | record tag next, _, _, h =>
      .bind (.record (hR.seen (resolve_sim hR h tag))) fun _ _ _ => run_sim hR happly next h
  | fresh v next, table, table', h => by
      rw [run, run]
      refine .bind (.fresh hR v) fun i i' hi => ?_
      obtain ⟨harg, htable⟩ := present_sim hR h hi
      show Run.Sim R ((next (present table i).1).run apply (present table i).2)
        ((next (present table' i').1).run apply' (present table' i').2)
      rw [harg]
      exact run_sim hR happly (next _) htable
  | call f x next, table, table', h => by
      rw [run, run]
      have hcall := happly _ _ _ _ (resolve_sim hR h f) (resolve_sim hR h x)
      refine .bind (.observe hcall) fun r r' hr => ?_
      cases hr with
      | @ok i i' hi =>
          obtain ⟨harg, htable⟩ := present_sim hR h hi
          show Run.Sim R ((next (.ok (present table i).1)).run apply (present table i).2)
            ((next (.ok (present table' i').1)).run apply' (present table' i').2)
          rw [harg]
          exact run_sim hR happly (next _) htable
      | error e => exact run_sim hR happly (next _) h

end Script

/-- A call of a host's function with arguments that look the same. -/
lemma Host.run_sim {R : Item → Item → Prop} (hR : Item.Similarity R) (host : Host)
    {apply apply' : Item → Item → Run Item}
    (happly : ∀ f f' x x', R f f' → R x x' → Run.Sim R (apply f x) (apply' f' x')) (key : String)
    (is is' : List Item) (his : List.Forall₂ R is is') :
    Run.Sim R ((host key (Script.presentAll [] is).1).run apply (Script.presentAll [] is).2)
      ((host key (Script.presentAll [] is').1).run apply' (Script.presentAll [] is').2) := by
  obtain ⟨hargs, htable⟩ := Script.presentAll_sim hR .nil his
  rw [hargs]
  exact Script.run_sim hR happly _ htable

end Criteria
