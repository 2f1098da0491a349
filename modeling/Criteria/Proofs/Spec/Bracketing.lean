import Criteria.Proofs.Spec.Once

/-!
# Bracketing

A sequence of specifications can be joined in many ways.  Each of them re-expresses the leaves through
another chain of parameters, nests the connectives in another way, and drops the neutral element where
that meets another operand.  None of this shows in a decision.

* `Bracketing` — the ways to join a sequence by an operation; `items` is the sequence and `remaining`
  what is left of it without the neutral element.
* `Spec.chain` — the sequence joined from its end on.
* `Spec.Regrouped` — the same leaves in the same order, which decide alike.  Joining respects this
  (`Regrouped.join`) and is associative up to it (`join_assoc`), since deciding is
  (`Combination.decide_assoc`).
* `Bracketing.spec_regrouped` — by induction on the bracketing, it regroups the chain of what remains.
* **`bracketings_agree`** — so two bracketings of what remains cannot be told apart.
-/

namespace Criteria

/-- What a computation ends in, and what can be seen of the world that it leaves. -/
def Run.outcome {ε α : Type} (m : ExceptT ε (StateM World) α) (w : World) :
    Except ε α × List Arg × Nat :=
  ((m.run w).1, (m.run w).2.seen)

lemma Run.Sim.outcome_eq {α : Type} {m m' : Run α} (h : Run.Sim Eq m m') (w : World) :
    Run.outcome m w = Run.outcome m' w :=
  have ⟨hresult, hworld⟩ := h w w rfl
  Prod.ext hresult.eq hworld

/-- **Deciding in turn is associative** for the operations that leave their operands as they are. -/
theorem Combination.decide_assoc {c : Combination} (plain : c.negates = false) (l m r : Run Bool) :
    c.decide (c.decide l m) r = c.decide l (c.decide m r) := by
  cases c with
  | nand | nor => cases plain
  | and | or =>
      simp only [decide, bind_assoc]
      refine bind_congr fun b => ?_
      cases b
      · simp
      · simp

namespace Spec

variable {c : Combination} {l l' r r' s : Spec} {n : Nat}

/-- A specification ends like its compiled condition, once the copies are numbered. -/
lemma outcome_satisfied {a : CompiledSpec} {w : World} {next : Nat}
    (hcompile : (s.compile .default).run w.next = .ok (a, next)) (host : Host) (entity : Item) :
    Run.outcome (s.satisfied host entity) w =
      (Run.outcome (a.test host entity) { w with next }).map (Except.mapError .fault) id := by
  rw [Run.outcome, ExceptT.run, satisfied_eq_test hcompile]
  rfl

/-! ## Joining -/

lemma isEverything_iff : s.isEverything = true ↔ s = everything := by
  cases s with
  | everything => exact ⟨fun _ => rfl, fun _ => rfl⟩
  | _ => exact ⟨nofun, nofun⟩

@[simp] lemma everything_join (c : Combination) (s : Spec) : join c everything s = s := rfl

@[simp] lemma join_everything (c : Combination) (s : Spec) : join c s everything = s := by
  unfold join
  split_ifs with h
  · exact (isEverything_iff.mp h).symm
  · rfl
  · contradiction

lemma join_of_ne (hl : l ≠ everything) (hr : r ≠ everything) : join c l r = combine c l r := by
  rw [join, if_neg (mt isEverything_iff.mp hl), if_neg (mt isEverything_iff.mp hr)]

/-- Nothing but neutral elements join to the neutral element. -/
lemma join_eq_everything_iff : join c l r = everything ↔ l = everything ∧ r = everything := by
  by_cases hl : l = everything
  · simp [hl]
  · by_cases hr : r = everything
    · simp [hr]
    · simp [join_of_ne hl hr, hl]

/-! ## Regrouping -/

/-- The same leaves in the same order, however they are grouped, with the same decisions. -/
structure Regrouped (s s' : Spec) : Prop where
  everything : s = everything ↔ s' = everything
  lambdas : s.lambdas = s'.lambdas
  copies : s.copies = s'.copies
  decide : s.decide = s'.decide

namespace Regrouped

lemma refl (s : Spec) : s.Regrouped s := ⟨Iff.rfl, rfl, rfl, rfl⟩

lemma symm (h : l.Regrouped r) : r.Regrouped l :=
  ⟨h.everything.symm, h.lambdas.symm, h.copies.symm, h.decide.symm⟩

lemma trans (h : l.Regrouped s) (h' : s.Regrouped r) : l.Regrouped r :=
  ⟨h.everything.trans h'.everything, h.lambdas.trans h'.lambdas, h.copies.trans h'.copies,
    h.decide.trans h'.decide⟩

/-- Joining respects regrouping. -/
lemma join (c : Combination) (hl : l.Regrouped l') (hr : r.Regrouped r') :
    (join c l r).Regrouped (join c l' r') := by
  by_cases hleft : l = .everything
  · obtain rfl := hleft
    rw [hl.everything.mp rfl]
    exact hr
  · by_cases hright : r = .everything
    · obtain rfl := hright
      rw [hr.everything.mp rfl, join_everything, join_everything]
      exact hl
    · have hleft' := mt hl.everything.mpr hleft
      have hright' := mt hr.everything.mpr hright
      rw [join_of_ne hleft hright, join_of_ne hleft' hright']
      refine ⟨by simp, congrArg₂ _ hl.lambdas hr.lambdas, congrArg₂ _ hl.copies hr.copies, ?_⟩
      rw [Spec.decide, Spec.decide, hl.decide, hr.decide]

/-- Regrouped specifications are isolated alike. -/
lemma isolated (h : s.Regrouped r) (isolated : s.Isolated n) : r.Isolated n := by
  have houter : s.outerParams n = r.outerParams n := by
    rw [outerParams, outerParams, h.lambdas, h.copies]
  refine ⟨?_, ?_⟩
  · rw [← h.lambdas]
    exact isolated.closed
  · rw [← h.lambdas, ← houter]
    exact isolated.apart

end Regrouped

/-- **Joining is associative** up to regrouping. -/
theorem join_assoc (plain : c.negates = false) (r s t : Spec) :
    (join c (join c r s) t).Regrouped (join c r (join c s t)) := by
  by_cases hr : r = everything
  · obtain rfl := hr
    exact .refl _
  by_cases hs : s = everything
  · obtain rfl := hs
    rw [join_everything, everything_join]
    exact .refl _
  by_cases ht : t = everything
  · obtain rfl := ht
    rw [join_everything, join_everything]
    exact .refl _
  have hleft : combine c r s ≠ everything := nofun
  have hright : combine c s t ≠ everything := nofun
  rw [join_of_ne hr hs, join_of_ne hs ht, join_of_ne hleft ht, join_of_ne hr hright]
  refine ⟨by simp, List.append_assoc _ _ _, Nat.add_assoc _ _ _, ?_⟩
  funext props host x
  exact Combination.decide_assoc plain _ _ _

/-! ## Chains -/

/-- The specifications joined from the last one on. -/
def chain (c : Combination) (ss : List Spec) : Spec := ss.foldr (join c) everything

lemma chain_append (plain : c.negates = false) (ss ts : List Spec) :
    (chain c (ss ++ ts)).Regrouped (join c (chain c ss) (chain c ts)) := by
  induction ss with
  | nil => exact .refl _
  | cons s ss ih => exact (Regrouped.join c (.refl s) ih).trans (join_assoc plain _ _ _).symm

/-- The neutral element may be left out beforehand. -/
lemma chain_filter (c : Combination) (ss : List Spec) :
    chain c (ss.filter (!·.isEverything)) = chain c ss := by
  induction ss with
  | nil => rfl
  | cons s ss ih =>
      show _ = join c s (chain c ss)
      rw [← ih, List.filter_cons]
      split_ifs with h
      · rfl
      · obtain rfl := isEverything_iff.mp (by simpa using h)
        rfl

lemma chain_eq_everything_iff (c : Combination) (ss : List Spec) :
    chain c ss = everything ↔ ss.filter (!·.isEverything) = [] := by
  induction ss with
  | nil => exact ⟨fun _ => rfl, fun _ => rfl⟩
  | cons s ss ih =>
      have hcons : chain c (s :: ss) = everything ↔ s = everything ∧ chain c ss = everything :=
        join_eq_everything_iff
      rw [hcons, ih, ← isEverything_iff, List.filter_cons]
      cases s.isEverything <;> simp

end Spec

/-! ## Bracketings -/

/-- A way to bracket a sequence of specifications. -/
inductive Bracketing where
  | single (s : Spec)
  | joined (left right : Bracketing)

namespace Bracketing

/-- The sequence that is bracketed. -/
def items : Bracketing → List Spec
  | single s => [s]
  | joined l r => l.items ++ r.items

/-- What remains of the sequence without the neutral element. -/
def remaining (b : Bracketing) : List Spec := b.items.filter (!·.isEverything)

/-- The specification that comes out if all brackets are joined by one operation. -/
def spec (c : Combination) : Bracketing → Spec
  | single s => s
  | joined l r => .join c (l.spec c) (r.spec c)

variable {c : Combination} {b b' : Bracketing} {n : Nat}

/-- **A bracketing regroups what remains**, by induction on it. -/
theorem spec_regrouped (plain : c.negates = false) (b : Bracketing) :
    (b.spec c).Regrouped (.chain c b.remaining) := by
  rw [remaining, Spec.chain_filter]
  induction b with
  | single s =>
      show s.Regrouped (.join c s .everything)
      rw [Spec.join_everything]
      exact .refl s
  | joined l r ihl ihr => exact (ihl.join c ihr).trans (Spec.chain_append plain _ _).symm

/-- Nothing but neutral elements give the neutral element. -/
lemma spec_eq_everything_iff (plain : c.negates = false) (b : Bracketing) :
    b.spec c = .everything ↔ b.remaining = [] := by
  rw [(spec_regrouped plain b).everything, remaining, Spec.chain_filter]
  exact Spec.chain_eq_everything_iff c b.items

/-- **Bracketing and the neutral element do not matter.**  Let two sequences be the same up to the
neutral element, with closed leaves whose nested lambdas bind none of the leaves' parameters.  However
they are bracketed, both results compile, and on every entity both end like the decisions on what
remains, made one after the other: with the same truth value or the same fault, and having recorded the
same.  Where nothing remains, they are the neutral element. -/
theorem bracketings_agree (plain : c.negates = false) (same : b.remaining = b'.remaining)
    (isolated : (b.spec c).Isolated n) :
    (b.spec c = .everything ↔ b.remaining = []) ∧ (b'.spec c = .everything ↔ b.remaining = []) ∧
    (∀ props, ∃ a a',
      ((b.spec c).compile props).run n = .ok (a, n + (b.spec c).copies) ∧
      ((b'.spec c).compile props).run n = .ok (a', n + (b.spec c).copies) ∧
      ∀ (host : Host) (entity : Item) (w : World),
        Run.outcome (a.test host entity) w = Run.outcome (a'.test host entity) w ∧
        Run.outcome (a'.test host entity) w =
          Run.outcome ((Spec.chain c b.remaining).decide props host entity) w) ∧
    ∀ (host : Host) (entity : Item) (w : World), w.next = n →
      Run.outcome ((b.spec c).satisfied host entity) w =
        Run.outcome ((b'.spec c).satisfied host entity) w := by
  have hb := spec_regrouped plain b
  have hb' : (b'.spec c).Regrouped (.chain c b.remaining) := same ▸ spec_regrouped plain b'
  have isolated' := (hb.trans hb'.symm).isolated isolated
  have compiled (props : EvaluationProperties) : ∃ a a',
      ((b.spec c).compile props).run n = .ok (a, n + (b.spec c).copies) ∧
      ((b'.spec c).compile props).run n = .ok (a', n + (b.spec c).copies) ∧
      ∀ host entity, Run.Sim Eq (a.test host entity) (a'.test host entity) ∧
        Run.Sim Eq (a'.test host entity)
          ((Spec.chain c b.remaining).decide props host entity) := by
    obtain ⟨a, hrun, hdecides⟩ := Spec.compile_decides isolated props
    obtain ⟨a', hrun', hdecides'⟩ := Spec.compile_decides isolated' props
    rw [hb'.copies, ← hb.copies] at hrun'
    rw [hb.decide] at hdecides
    rw [hb'.decide] at hdecides'
    exact ⟨a, a', hrun, hrun', fun host x =>
      ⟨(hdecides host x).trans (hdecides' host x).symm, hdecides' host x⟩⟩
  refine ⟨spec_eq_everything_iff plain b, same ▸ spec_eq_everything_iff plain b', ?_, ?_⟩
  · intro props
    obtain ⟨a, a', hrun, hrun', hsim⟩ := compiled props
    exact ⟨a, a', hrun, hrun', fun host x w =>
      ⟨(hsim host x).1.outcome_eq w, (hsim host x).2.outcome_eq w⟩⟩
  · rintro host x w rfl
    obtain ⟨a, a', hrun, hrun', hsim⟩ := compiled .default
    rw [Spec.outcome_satisfied hrun, Spec.outcome_satisfied hrun', (hsim host x).1.outcome_eq]

/-- A condition that records `tag` once it has read the attribute. -/
def recording (p : Param) (tag name : String) : Spec :=
  .tree ⟨.param p, .call (.function ⟨"trace", "trace", "<function trace at 0x?>"⟩)
    [.const ⟨.str tag, ⟨0, []⟩⟩, .member (.param p) name] none⟩

/-- Who is active, has the tag, and has a name, with neutral elements in between. -/
def scattered : Bracketing :=
  joined (joined (single .everything) (single (recording ⟨1, "p"⟩ "first" "active")))
    (joined (single Spec.tagged)
      (joined (single .everything) (single (recording ⟨1, "p"⟩ "last" "name"))))

/-- The same from left to right. -/
def gathered : Bracketing :=
  joined (joined (single (recording ⟨1, "p"⟩ "first" "active")) (single Spec.tagged))
    (single (recording ⟨1, "p"⟩ "last" "name"))

/-- Somebody without a name: both bracketings have recorded the first condition by then. -/
theorem bracketings_agree_scattered :
    Combination.and.negates = false ∧ scattered.remaining = gathered.remaining ∧
      (scattered.spec .and).Isolated 8 ∧
      ∃ a a', ((scattered.spec .and).compile .default).run 8 = .ok (a, 9) ∧
        ((gathered.spec .and).compile .default).run 8 = .ok (a', 9) ∧
        Run.outcome (a.test Standard.host Spec.ada) ⟨[], 9⟩ =
          Run.outcome (a'.test Standard.host Spec.ada) ⟨[], 9⟩ ∧
        Run.outcome (a'.test Standard.host Spec.ada) ⟨[], 9⟩ =
          (.error (.missingAttribute "types.SimpleNamespace" "name"),
            [.datum ⟨.str "first", ⟨0, []⟩⟩], 10) := by
  have isolated : (scattered.spec .and).Isolated 8 := by
    constructor
    · show ∀ l ∈ [_, _, _, _], Lambda.Closed l
      simp only [List.forall_mem_cons]
      exact ⟨⟨rfl, rfl⟩, ⟨rfl, rfl⟩, ⟨rfl, rfl⟩, ⟨rfl, rfl⟩, fun _ h => nomatch h⟩
    · decide
  have same : scattered.remaining = gathered.remaining := rfl
  obtain ⟨-, -, hcompiled, -⟩ := bracketings_agree rfl same isolated
  obtain ⟨a, a', hrun, hrun', houtcome⟩ := hcompiled .default
  obtain ⟨heq, hreference⟩ := houtcome Standard.host Spec.ada ⟨[], 9⟩
  refine ⟨rfl, same, isolated, a, a', hrun, hrun', heq, hreference.trans ?_⟩
  cbv

end Bracketing

end Criteria
