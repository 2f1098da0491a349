import Criteria.Proofs.Config.Whole
import Criteria.Yaml.Document

/-!
# The values of indented files

A collection of an indented file may stand in itself; the reference that is kept for it leads to a
collection around it.

* `Builder.Keeps` — a step of building leaves only values without references behind.
* `Builder.keeps_run` — so do all steps of a document.
* `assemble_whole` — a value that is put together leads at most to the collections around it, and one
  that counts as whole leads nowhere, by induction on the depth.
* **`read_whole`** — nothing leads out of the value of a document.
-/

namespace Criteria.Yaml

open Value

/-! ## Building -/

/-- Whether the values among what has been built hold no references. -/
def PlainBuilt (built : Array (Option Built)) : Prop :=
  ∀ n v, built.getD n none = some (.value v) → v.isPlain = true

/-- Scalars hold no references. -/
lemma scalarValue_plain {name text : String} {own : Option String} {v : Value}
    (h : scalarValue name text own = .ok v) : v.isPlain = true := by
  rw [scalarValue.eq_def] at h
  dsimp only at h
  repeat' split at h
  all_goals cases h
  all_goals rfl

namespace Builder

/-- A step after which what has been built still holds no references. -/
def Keeps {α : Type} (m : Builder α) : Prop :=
  ∀ s a s', StateT.run m s = .ok (a, s') → PlainBuilt s.built → PlainBuilt s'.built

section Rules

variable {α β : Type}

lemma Keeps.pure (a : α) : Keeps (pure a : Builder α) := by
  intro s b s' h hs
  cases h
  exact hs

lemma Keeps.bind {m : Builder α} {f : α → Builder β} (hm : Keeps m) (hf : ∀ a, Keeps (f a)) :
    Keeps (m >>= f) := by
  intro s b s' h hs
  rw [StateT.run_bind] at h
  obtain ⟨⟨a, s₁⟩, ha, h⟩ := bind_eq_ok.mp h
  exact hf a s₁ b s' h (hm s a s₁ ha hs)

lemma Keeps.fail (e : Error) : Keeps (fail e : Builder α) := by
  intro s a s' h
  cases h

lemma Keeps.get : Keeps (get : Builder Site) := by
  intro s a s' h hs
  cases h
  exact hs

lemma Keeps.modify {f : Site → Site} (hf : ∀ s, PlainBuilt s.built → PlainBuilt (f s).built) :
    Keeps (modify f : Builder Unit) := by
  intro s a s' h hs
  cases h
  exact hf s hs

lemma Keeps.mapM {f : α → Builder β} (hf : ∀ a, Keeps (f a)) (l : List α) : Keeps (l.mapM f) := by
  induction l with
  | nil => exact .pure _
  | cons a l ih =>
      rw [List.mapM_cons]
      exact (hf a).bind fun _ => ih.bind fun _ => .pure _

lemma Keeps.foldlM {f : β → α → Builder β} (hf : ∀ b a, Keeps (f b a)) (b : β) (l : List α) :
    Keeps (l.foldlM f b) := by
  induction l generalizing b with
  | nil => exact .pure _
  | cons a l ih =>
      rw [List.foldlM_cons]
      exact (hf b a).bind fun b => ih b

lemma Keeps.forIn {f : α → β → Builder (ForInStep β)} (hf : ∀ a b, Keeps (f a b)) (l : List α)
    (b : β) : Keeps (forIn l b f) := by
  induction l generalizing b with
  | nil => exact .pure _
  | cons a l ih =>
      rw [List.forIn_cons]
      refine (hf a b).bind fun step => ?_
      cases step with
      | done b => exact .pure _
      | yield b => exact ih b

end Rules

lemma keeps_node (n : Nat) : Keeps (node n) := Keeps.get.bind fun _ => .pure _

lemma keeps_put {n : Nat} {b : Built} (hb : ∀ v, b = .value v → v.isPlain = true) :
    Keeps (put n b) := by
  refine Keeps.modify fun s hs m v hv => ?_
  rw [Array.getD_eq_getD_getElem?, Array.getElem?_setIfInBounds] at hv
  split_ifs at hv
  · exact hb v (Option.some.inj hv)
  · cases hv
  · exact hs m v (by rwa [Array.getD_eq_getD_getElem?])

lemma keeps_scalarText (n fuel : Nat) : Keeps (scalarText n fuel) := by
  induction fuel generalizing n with
  | zero => exact .fail _
  | succ fuel ih =>
      rw [scalarText]
      refine (keeps_node n).bind fun node => ?_
      split
      next => exact .pure _
      next => exact .fail _
      next =>
        refine Keeps.get.bind fun s => ?_
        split
        next => exact ih _
        next => exact .fail _

lemma keeps_buildScalar (n : Nat) (name : String) (own : Option String) :
    Keeps (buildScalar n name own) := by
  refine Keeps.get.bind fun s => (keeps_scalarText n _).bind fun text => ?_
  split
  next v hv =>
    refine Keeps.bind (keeps_put ?_) fun _ => .pure _
    rintro _ ⟨⟩
    exact scalarValue_plain hv
  next => exact .fail _

lemma keeps_build (n : Nat) : Keeps (build n) := by
  rw [build]
  refine Keeps.get.bind fun s => ?_
  split
  next => exact .pure _
  next =>
    refine (keeps_node n).bind fun node => ?_
    split
    next kind _ =>
      refine Keeps.bind (keeps_put ?_) fun _ => Keeps.bind (Keeps.modify ?_) fun _ => .pure _
      · intro v hv
        cases kind <;> cases hv
      · exact fun _ hs => hs
    next => exact .fail _
    next name _ _ =>
      dsimp only
      split
      next => exact keeps_buildScalar n name _
      next => exact (Keeps.fail _).bind fun _ => keeps_buildScalar n name _

lemma keeps_entriesOf (n : Nat) : Keeps (entriesOf n) := by
  refine (keeps_node n).bind fun node => ?_
  split
  next => exact .pure _
  next => exact .fail _

lemma keeps_merged {flatten : Nat → Builder Unit} (hflatten : ∀ n, Keeps (flatten n)) (n : Nat) :
    Keeps (merged flatten n) := by
  refine (keeps_node n).bind fun node => ?_
  split
  next => exact .fail _
  next => exact (hflatten n).bind fun _ => keeps_entriesOf n
  next items _ =>
    refine Keeps.bind (Keeps.mapM (fun i => ?_) items) fun lists => .pure _
    exact (keeps_entriesOf i).bind fun _ => (hflatten i).bind fun _ => keeps_entriesOf i

lemma keeps_flatten (fuel n : Nat) : Keeps (flatten fuel n) := by
  induction fuel generalizing n with
  | zero => exact .pure _
  | succ fuel ih =>
      rw [flatten]
      refine (keeps_entriesOf n).bind fun es => Keeps.get.bind fun s => ?_
      refine Keeps.bind (Keeps.modify ?_) fun _ => ?_
      · exact fun _ hs => hs
      · refine Keeps.bind (Keeps.mapM (fun e : Nat × Nat => keeps_merged ih e.2) _) fun lists => ?_
        refine Keeps.modify ?_
        exact fun _ hs => hs

lemma keeps_key (n : Nat) : Keeps (key n) := by
  refine (keeps_build n).bind fun b => ?_
  split
  next => exact .pure _
  next => exact .fail _

lemma keeps_entries (n : Nat) : Keeps (entries n) := by
  refine (keeps_entriesOf n).bind fun _ => Keeps.get.bind fun s => ?_
  refine (keeps_flatten _ n).bind fun _ => (keeps_entriesOf n).bind fun es => ?_
  refine Keeps.foldlM (fun all e => ?_) [] es
  exact (keeps_key e.1).bind fun k => (keeps_build e.2).bind fun _ => .pure _

lemma keeps_pair (n : Nat) : Keeps (pair n) := by
  refine (keeps_entriesOf n).bind fun es => ?_
  split
  next k v => exact (keeps_build k).bind fun _ => (keeps_build v).bind fun _ => .pure _
  next => exact .fail _

lemma keeps_fill (n : Nat) (kind : Kind) : Keeps (fill n kind) := by
  have hput : ∀ b : Built, (∀ v, b ≠ .value v) → Keeps (put n b) := fun b hb =>
    keeps_put fun v hv => absurd hv (hb v)
  refine (keeps_node n).bind fun node => ?_
  split
  next items _ =>
    refine Keeps.bind (Keeps.forIn (fun i _ => ?_) items PUnit.unit) fun _ => hput _ nofun
    exact (keeps_build i).bind fun _ => .pure _
  next => exact (keeps_entries n).bind fun _ => hput _ nofun
  next => exact (keeps_entries n).bind fun _ => hput _ nofun
  next items _ => exact (Keeps.mapM keeps_pair items).bind fun _ => hput _ nofun
  next => exact .fail _

/-- **Building leaves only scalars without references behind.** -/
theorem keeps_run (fuel : Nat) : Keeps (run fuel) := by
  induction fuel with
  | zero => exact .pure _
  | succ fuel ih =>
      rw [run]
      refine Keeps.get.bind fun s => ?_
      split
      next => exact .pure _
      next n kind line _ =>
        refine Keeps.bind (Keeps.modify ?_) fun _ => (keeps_fill n kind).bind fun _ => ih
        exact fun _ hs => hs

end Builder

/-! ## Putting together -/

namespace Built

/-- Whether the values that have been put together hold no references. -/
def PlainParts (values : Array (Option Value)) : Prop :=
  ∀ n v, values.getD n .none = some v → v.isPlain = true

/-- A step of putting together whose outcome satisfies a condition. -/
def Gives {α : Type} (Q : α → Prop) (m : Assembly α) : Prop :=
  ∀ values, PlainParts values → Q (StateT.run m values).1 ∧ PlainParts (StateT.run m values).2

section Rules

variable {α β : Type} {P : α → Prop} {Q : β → Prop}

lemma Gives.pure {a : α} (h : P a) : Gives P (pure a : Assembly α) := fun _ hvalues => ⟨h, hvalues⟩

lemma Gives.bind {m : Assembly α} {f : α → Assembly β} (hm : Gives P m)
    (hf : ∀ a, P a → Gives Q (f a)) : Gives Q (m >>= f) := by
  intro values hvalues
  obtain ⟨ha, hvalues⟩ := hm values hvalues
  exact hf _ ha _ hvalues

lemma Gives.get : Gives PlainParts (get : Assembly (Array (Option Value))) :=
  fun _ hvalues => ⟨hvalues, hvalues⟩

lemma Gives.mapM {f : α → Assembly β} (hf : ∀ a, Gives Q (f a)) (l : List α) :
    Gives (fun bs => ∀ b ∈ bs, Q b) (l.mapM f) := by
  induction l with
  | nil => exact .pure fun _ h => nomatch h
  | cons a l ih =>
      rw [List.mapM_cons]
      exact (hf a).bind fun b hb => ih.bind fun bs hbs =>
        .pure (List.forall_mem_cons.mpr ⟨hb, hbs⟩)

end Rules

/-- What is put together leads at most to so many collections around it, and leads nowhere if it
counts as whole. -/
def LeadsTo (depth : Nat) (r : Value × Bool) : Prop :=
  r.1.isWithin depth = true ∧ (r.2 = true → r.1.isPlain = true)

lemma LeadsTo.of_plain {depth : Nat} {v : Value} (h : v.isPlain = true) (whole : Bool) :
    LeadsTo depth (v, whole) := ⟨isWithin_of_isPlain h, fun _ => h⟩

/-- A collection that is met again leads to the one around it. -/
lemma leadsTo_outer {around : List Nat} {n : Nat} (h : around.contains n = true)
    (isMapping : Bool) : LeadsTo around.length (.outer isMapping (around.idxOf n), false) := by
  refine ⟨?_, nofun⟩
  rw [List.contains_iff_mem] at h
  exact decide_eq_true (List.idxOf_lt_length_of_mem h)

/-- A whole value is kept for other places. -/
lemma gives_keep {depth n : Nat} {r : Value × Bool} (h : LeadsTo depth r) :
    Gives (LeadsTo depth) (do
      if r.2 then modify fun values => values.setIfInBounds n (some r.1)
      return r) := by
  obtain ⟨v, whole⟩ := r
  cases whole with
  | false => exact .pure h
  | true =>
      have hkept : Gives (fun _ => True)
          (modify fun values => values.setIfInBounds n (some v) : Assembly PUnit) := by
        refine fun values hvalues => ⟨trivial, fun m w hw => ?_⟩
        change (values.setIfInBounds n (some v)).getD m .none = some w at hw
        rw [Array.getD_eq_getD_getElem?, Array.getElem?_setIfInBounds] at hw
        split_ifs at hw
        · cases hw
          exact h.2 rfl
        · cases hw
        · exact hvalues m w (by rwa [Array.getD_eq_getD_getElem?])
      exact hkept.bind fun _ _ => .pure h

/-- **What is put together leads at most to the collections around it.** -/
theorem assemble_whole {built : Array (Option Built)} (hbuilt : PlainBuilt built) (fuel : Nat)
    (around : List Nat) (n : Nat) : Gives (LeadsTo around.length) (assemble built fuel around n) := by
  induction fuel generalizing around n with
  | zero => exact .pure (.of_plain rfl true)
  | succ fuel ih =>
      rw [assemble]
      refine Gives.get.bind fun values hvalues => ?_
      split
      next v hv => exact .pure (.of_plain (hvalues n v hv) true)
      next =>
        extract_lets part keep
        have hpart : ∀ i, Gives (LeadsTo (around.length + 1)) (part i) := ih (n :: around)
        have hkeep : ∀ r, LeadsTo around.length r → Gives (LeadsTo around.length) (keep r) :=
          fun r hr => gives_keep hr
        split
        next => exact (Gives.pure (.of_plain rfl true)).bind hkeep
        next v hv => exact (Gives.pure (.of_plain (hbuilt n v hv) true)).bind hkeep
        next => exact (Gives.pure (.of_plain rfl true)).bind hkeep
        next items _ =>
          split
          next hagain => exact (Gives.pure (leadsTo_outer hagain false)).bind hkeep
          next =>
            refine (Gives.mapM hpart items).bind fun parts hparts => ?_
            refine (Gives.pure ⟨?_, fun hwhole => ?_⟩).bind hkeep
            · rw [isWithin, everyOuter_list, List.forall_mem_map]
              exact fun r hr => (hparts r hr).1
            · rw [isPlain_list_iff, List.forall_mem_map]
              exact fun r hr => (hparts r hr).2 (List.all_eq_true.mp hwhole r hr)
        next entries _ =>
          split
          next hagain => exact (Gives.pure (leadsTo_outer hagain true)).bind hkeep
          next =>
            have hentry : ∀ e : Value × Nat, Gives
                (fun p : Value × (Value × Bool) => LeadsTo (around.length + 1) p.2)
                (do return (e.1, ← part e.2)) := fun e =>
              (hpart e.2).bind fun r hr => .pure hr
            refine (Gives.mapM hentry entries).bind fun parts hparts => ?_
            refine (Gives.pure ⟨?_, fun hwhole => ?_⟩).bind hkeep
            · rw [isWithin, everyOuter_map, List.forall_mem_map]
              exact fun p hp => (hparts p hp).1
            · rw [isPlain_map_iff, List.forall_mem_map]
              exact fun p hp => (hparts p hp).2 (List.all_eq_true.mp hwhole p hp)
        next entries _ =>
          split
          next hagain => exact (Gives.pure (leadsTo_outer hagain false)).bind hkeep
          next =>
            have hpair : ∀ e : Nat × Nat, Gives
                (fun p : (Value × Bool) × (Value × Bool) =>
                  LeadsTo (around.length + 1) p.1 ∧ LeadsTo (around.length + 1) p.2)
                (do return (← part e.1, ← part e.2)) := fun e =>
              (hpart e.1).bind fun k hk => (hpart e.2).bind fun v hv => .pure ⟨hk, hv⟩
            refine (Gives.mapM hpair entries).bind fun parts hparts => ?_
            refine (Gives.pure ⟨?_, fun hwhole => ?_⟩).bind hkeep
            · rw [isWithin, everyOuter_list, List.forall_mem_map]
              intro p hp
              simpa using ⟨(hparts p hp).1.1, (hparts p hp).2.1⟩
            · rw [isPlain_list_iff, List.forall_mem_map]
              intro p hp
              have hboth := List.all_eq_true.mp hwhole p hp
              rw [Bool.and_eq_true] at hboth
              rw [isPlain_tuple_iff]
              simpa using ⟨(hparts p hp).1.2 hboth.1, (hparts p hp).2.2 hboth.2⟩

end Built

/-! ## Documents -/

private lemma getD_replicate_none {α : Type} {a : α} (size n : Nat) :
    (Array.replicate size (Option.none : Option α)).getD n .none ≠ some a := by
  rw [Array.getD_eq_getD_getElem?, Array.getElem?_replicate]
  split_ifs <;> simp

lemma Document.value_whole {d : Document} {v : Value} (h : d.value = .ok v) :
    v.isWithin 0 = true := by
  have hbare : PlainBuilt (Array.replicate d.nodes.size .none) := fun n v hv =>
    absurd hv (getD_replicate_none d.nodes.size n)
  have hnothing : Built.PlainParts (Array.replicate d.nodes.size .none) := fun n v hv =>
    absurd hv (getD_replicate_none d.nodes.size n)
  rw [Document.value] at h
  split at h
  next => cases h
  next s hrun =>
    cases h
    have hbuilt : PlainBuilt s.built :=
      ((Builder.keeps_build d.root).bind fun _ => Builder.keeps_run d.nodes.size) _ _ _ hrun hbare
    exact (Built.assemble_whole hbuilt _ [] d.root _ hnothing).1.1

/-- **Nothing leads out of the value of a document.** -/
theorem read_whole {text : String} {v : Value} (h : read text = .ok v) : v.isWithin 0 = true := by
  rw [read] at h
  split at h
  next => cases h
  next =>
    split at h
    next => cases h
    next =>
      cases h
      rfl
    next => exact Document.value_whole h

end Criteria.Yaml
