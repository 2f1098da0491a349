import Criteria.Config.Tree
import Criteria.Proofs.Eval.Quiet
import Mathlib.Tactic.Lemma
import Mathlib.Tactic.SplitIfs

/-!
# Values that nothing leads out of

A collection that stands in itself is kept as a reference that leads outwards.  A reference means
something only as long as it ends at a collection around it.

* `Value.collection_induction` — induction on the collections within one another.
* `Value.everyOuter` — whether all references in a value satisfy a condition.
* `Value.isWithin`, `Value.isPlain` — whether they end at most so far out, and whether there are
  none.
* `unroll_of_everyOuter`, `isWithin_unroll` — a part that is taken out of a mapping leads nowhere
  else, and taking it out once more changes nothing.
* **`isWithin_overlayTo`** — laying one value over another keeps this up.
* **`exists_overlay`** — a value without references can be laid over any value, and any over it.
-/

namespace Criteria.Value

/-! ## Induction -/

/-- Whether a value has no parts that settings could lead to. -/
def isAtom : Value → Bool
  | .list _ | .tuple _ | .map _ | .outer .. => false
  | _ => true

/-- Induction on the collections within one another. -/
theorem collection_induction {P : Value → Prop} (atom : ∀ v : Value, v.isAtom = true → P v)
    (outer : ∀ isMapping levels, P (.outer isMapping levels))
    (list : ∀ items : List Value, (∀ v ∈ items, P v) → P (.list items))
    (tuple : ∀ items : List Value, (∀ v ∈ items, P v) → P (.tuple items))
    (map : ∀ entries : List (Value × Value), (∀ e ∈ entries, P e.2) → P (.map entries)) (v : Value) :
    P v := by
  match v with
  | .list items => exact list items fun v _ => collection_induction atom outer list tuple map v
  | .tuple items => exact tuple items fun v _ => collection_induction atom outer list tuple map v
  | .map entries => exact map entries fun e _ => collection_induction atom outer list tuple map e.2
  | .outer isMapping levels => exact outer isMapping levels
  | .none | .bool _ | .int _ | .float _ | .str _ | .bytes _ | .view _ | .record _ | .data _
  | .stamp _ | .set _ | .thing _ => exact atom _ rfl
termination_by sizeOf v
decreasing_by
  · have := List.sizeOf_lt_of_mem ‹_ ∈ items›
    simp only [Value.list.sizeOf_spec]
    omega
  · have := List.sizeOf_lt_of_mem ‹_ ∈ items›
    simp only [Value.tuple.sizeOf_spec]
    omega
  · have := List.sizeOf_lt_of_mem ‹_ ∈ entries›
    obtain ⟨k, v⟩ := e
    simp only [Value.map.sizeOf_spec, Prod.mk.sizeOf_spec] at this ⊢
    omega

/-! ## References -/

mutual

/-- Whether every reference in the value satisfies the condition on the number of collections around
it, of which there are `depth` around the value, and the number of those that it leads out of. -/
def everyOuter (ok : Nat → Nat → Bool) (depth : Nat) : Value → Bool
  | .outer _ levels => ok depth levels
  | .list items => allEveryOuter ok (depth + 1) items
  | .map entries => entriesEveryOuter ok (depth + 1) entries
  | .tuple items => allEveryOuter ok depth items
  | _ => true

def allEveryOuter (ok : Nat → Nat → Bool) (depth : Nat) : List Value → Bool
  | [] => true
  | v :: vs => v.everyOuter ok depth && allEveryOuter ok depth vs

def entriesEveryOuter (ok : Nat → Nat → Bool) (depth : Nat) : List (Value × Value) → Bool
  | [] => true
  | (_, v) :: es => v.everyOuter ok depth && entriesEveryOuter ok depth es

end

/-- Whether every reference ends at one of the collections around it; there are `depth` of them
around the value. -/
def isWithin (depth : Nat) (v : Value) : Bool :=
  v.everyOuter (fun around levels => levels < around) depth

/-- Whether there is no reference. -/
def isPlain (v : Value) : Bool := v.everyOuter (fun _ _ => false) 0

section Conditions

variable {ok ok' : Nat → Nat → Bool} {depth : Nat}

lemma everyOuter_atom {v : Value} (h : v.isAtom = true) : v.everyOuter ok depth = true := by
  cases v <;> first | rfl | cases h

lemma allEveryOuter_iff {vs : List Value} :
    allEveryOuter ok depth vs = true ↔ ∀ v ∈ vs, v.everyOuter ok depth = true := by
  induction vs with
  | nil => simp [allEveryOuter]
  | cons v vs ih => simp [allEveryOuter, ih]

lemma entriesEveryOuter_iff {es : List (Value × Value)} :
    entriesEveryOuter ok depth es = true ↔ ∀ e ∈ es, e.2.everyOuter ok depth = true := by
  induction es with
  | nil => simp [entriesEveryOuter]
  | cons e es ih => simp [entriesEveryOuter, ih]

@[simp] lemma everyOuter_outer (isMapping : Bool) (levels : Nat) :
    (outer isMapping levels).everyOuter ok depth = ok depth levels := rfl

@[simp] lemma everyOuter_list {items : List Value} :
    (list items).everyOuter ok depth = true ↔ ∀ v ∈ items, v.everyOuter ok (depth + 1) = true :=
  allEveryOuter_iff

@[simp] lemma everyOuter_tuple {items : List Value} :
    (tuple items).everyOuter ok depth = true ↔ ∀ v ∈ items, v.everyOuter ok depth = true :=
  allEveryOuter_iff

@[simp] lemma everyOuter_map {entries : List (Value × Value)} :
    (map entries).everyOuter ok depth = true ↔
      ∀ e ∈ entries, e.2.everyOuter ok (depth + 1) = true :=
  entriesEveryOuter_iff

/-- References that satisfy a condition satisfy a weaker one, also with other collections around. -/
lemma everyOuter_mono {depth depth' : Nat} {v : Value}
    (weaker : ∀ n levels, ok (depth + n) levels → ok' (depth' + n) levels)
    (h : v.everyOuter ok depth = true) : v.everyOuter ok' depth' = true := by
  have deeper : ∀ {depth depth'}, (∀ n levels, ok (depth + n) levels → ok' (depth' + n) levels) →
      ∀ n levels, ok (depth + 1 + n) levels → ok' (depth' + 1 + n) levels := by
    intro depth depth' weaker n levels
    rw [Nat.add_assoc, Nat.add_assoc]
    exact weaker (1 + n) levels
  induction v using collection_induction generalizing depth depth' with
  | atom v hatom => exact everyOuter_atom hatom
  | outer isMapping levels => exact weaker 0 levels h
  | list items ih =>
      rw [everyOuter_list] at h ⊢
      exact fun v hv => ih v hv (deeper weaker) (h v hv)
  | tuple items ih =>
      rw [everyOuter_tuple] at h ⊢
      exact fun v hv => ih v hv weaker (h v hv)
  | map entries ih =>
      rw [everyOuter_map] at h ⊢
      exact fun e he => ih e he (deeper weaker) (h e he)

end Conditions

lemma isWithin_mono {depth depth' : Nat} {v : Value} (hle : depth ≤ depth')
    (h : v.isWithin depth = true) : v.isWithin depth' = true := by
  refine everyOuter_mono (fun n levels hlt => ?_) h
  simp only [decide_eq_true_eq] at hlt ⊢
  omega

lemma isWithin_of_isPlain {depth : Nat} {v : Value} (h : v.isPlain = true) :
    v.isWithin depth = true :=
  everyOuter_mono (fun _ _ hfalse => absurd hfalse (by decide)) h

/-! ## Parts taken out -/

section Unroll

variable {whole : Nat → Value} {depth : Nat}

lemma unroll_atom {v : Value} (h : v.isAtom = true) : v.unroll whole depth = v := by
  cases v <;> first | rfl | cases h

lemma unrollAll_eq_map (vs : List Value) :
    unrollAll whole depth vs = vs.map (unroll whole depth) := by
  induction vs with
  | nil => rfl
  | cons v vs ih => rw [unrollAll, ih, List.map_cons]

lemma unrollEntries_eq_map (es : List (Value × Value)) :
    unrollEntries whole depth es = es.map fun e => (e.1, e.2.unroll whole depth) := by
  induction es with
  | nil => rfl
  | cons e es ih => rw [unrollEntries, ih, List.map_cons]

/-- A value in which nothing leads out to the mapping stays as it is. -/
lemma unroll_of_everyOuter {ok : Nat → Nat → Bool} (other : ∀ n levels, ok n levels → levels ≠ n)
    {v : Value} (h : v.everyOuter ok depth = true) : v.unroll whole depth = v := by
  induction v using collection_induction generalizing depth with
  | atom v hatom => exact unroll_atom hatom
  | outer isMapping levels => rw [unroll, if_neg (other depth levels h)]
  | list items ih =>
      rw [everyOuter_list] at h
      rw [unroll, unrollAll_eq_map, List.map_congr_left fun v hv => ih v hv (h v hv), List.map_id']
  | tuple items ih =>
      rw [everyOuter_tuple] at h
      rw [unroll, unrollAll_eq_map, List.map_congr_left fun v hv => ih v hv (h v hv), List.map_id']
  | map entries ih =>
      rw [everyOuter_map] at h
      have hentries : ∀ e ∈ entries, (e.1, e.2.unroll whole (depth + 1)) = e :=
        fun e he => by rw [ih e he (h e he)]
      rw [unroll, unrollEntries_eq_map, List.map_congr_left hentries, List.map_id']

lemma unroll_of_isWithin {v : Value} (h : v.isWithin depth = true) : v.unroll whole depth = v := by
  refine unroll_of_everyOuter (fun n levels hlt => ?_) h
  exact Nat.ne_of_lt (of_decide_eq_true hlt)

/-- What was taken out leads nowhere but into what stands around it. -/
lemma isWithin_unroll (hwhole : ∀ n, (whole n).isWithin n = true) {v : Value}
    (h : v.isWithin (depth + 1) = true) : (v.unroll whole depth).isWithin depth = true := by
  induction v using collection_induction generalizing depth with
  | atom v hatom => exact (unroll_atom hatom).symm ▸ everyOuter_atom hatom
  | outer isMapping levels =>
      rw [unroll]
      split_ifs with hlevels
      · exact hwhole depth
      · simp only [isWithin, everyOuter_outer, decide_eq_true_eq] at h ⊢
        omega
  | list items ih =>
      simp only [isWithin, everyOuter_list] at h
      simp only [isWithin, unroll, unrollAll_eq_map, everyOuter_list, List.forall_mem_map]
      exact fun v hv => ih v hv (h v hv)
  | tuple items ih =>
      simp only [isWithin, everyOuter_tuple] at h
      simp only [isWithin, unroll, unrollAll_eq_map, everyOuter_tuple, List.forall_mem_map]
      exact fun v hv => ih v hv (h v hv)
  | map entries ih =>
      simp only [isWithin, everyOuter_map] at h
      simp only [isWithin, unroll, unrollEntries_eq_map, everyOuter_map, List.forall_mem_map]
      exact fun e he => ih e he (h e he)

end Unroll

/-! ## Entries -/

section Entries

variable {entries : List (Value × Value)}

lemma isWithin_map_iff {depth : Nat} :
    (map entries).isWithin depth = true ↔ ∀ e ∈ entries, e.2.isWithin (depth + 1) = true :=
  everyOuter_map

lemma isWithin_again {depth : Nat} {v : Value} (h : v.isWithin (depth + 1) = true) :
    (v.again depth).isWithin (depth + 1) = true := by
  cases v with
  | list | map => simp [again, isWithin]
  | _ => exact h

/-- What holds of all items still holds after one of them was changed. -/
private lemma forall_mem_modify {α : Type} {p : α → Prop} {f : α → α} (hf : ∀ a, p a → p (f a))
    {l : List α} (h : ∀ a ∈ l, p a) (i : Nat) : ∀ a ∈ l.modify i f, p a := by
  induction l generalizing i with
  | nil => simp
  | cons x l ih =>
      obtain ⟨hx, hl⟩ := List.forall_mem_cons.mp h
      cases i with
      | zero => simpa using ⟨hf x hx, hl⟩
      | succ i => simpa using ⟨hx, ih hl i⟩

/-- A part that is taken out of a whole mapping is whole. -/
lemma isWithin_part (h : (map entries).isWithin 0 = true) (i : Nat) {v : Value}
    (hv : v.isWithin 1 = true) : (part entries i v).isWithin 0 = true := by
  refine isWithin_unroll (fun n => ?_) hv
  rw [isWithin_map_iff] at h ⊢
  have hdeep : ∀ e ∈ entries, e.2.isWithin (n + 1) = true := fun e he =>
    isWithin_mono (by omega) (h e he)
  exact forall_mem_modify (p := fun e : Value × Value => e.2.isWithin (n + 1) = true)
    (fun _ => isWithin_again) hdeep i

lemma isWithin_parts (h : (map entries).isWithin 0 = true) :
    ∀ e ∈ parts entries, e.2.isWithin 0 = true := by
  simp only [parts, List.forall_mem_map]
  rintro ⟨e, i⟩ he
  exact isWithin_part h i (isWithin_map_iff.mp h e (List.fst_mem_of_mem_zipIdx he))

/-- Parts that nothing leads out of are the same taken out. -/
lemma parts_of_isWithin (h : ∀ e ∈ entries, e.2.isWithin 0 = true) : parts entries = entries := by
  have hparts : ∀ e ∈ entries.zipIdx, (e.1.1, part entries e.2 e.1.2) = e.1 := by
    intro e he
    rw [part, unroll_of_isWithin (h e.1 (List.fst_mem_of_mem_zipIdx he))]
  rw [parts, List.map_congr_left hparts, List.zipIdx_map_fst]

end Entries

/-! ## Laying one value over another -/

section Overlay

variable {join : Value → Value → Except Fault Value} {lower upper : List (Value × Value)}

lemma joinEntries_cons_eq_ok {k v : Value} {entries : List (Value × Value)}
    (h : joinEntries join upper ((k, v) :: lower) = .ok entries) :
    ∃ joined rest, entries = (k, joined) :: rest ∧ joinEntries join upper lower = .ok rest ∧
      ((∃ e ∈ upper.find? (fun e => e.1.sameKey k), join v e.2 = .ok joined) ∨
        upper.find? (fun e => e.1.sameKey k) = .none ∧ joined = v) := by
  rw [joinEntries] at h
  split at h
  next e hfind =>
    obtain ⟨joined, hjoined, h⟩ := bind_eq_ok.mp h
    obtain ⟨rest, hrest, h⟩ := bind_eq_ok.mp h
    cases h
    exact ⟨joined, rest, rfl, hrest, .inl ⟨e, hfind, hjoined⟩⟩
  next hfind =>
    obtain ⟨joined, hjoined, h⟩ := bind_eq_ok.mp h
    obtain ⟨rest, hrest, h⟩ := bind_eq_ok.mp h
    cases hjoined
    cases h
    exact ⟨v, rest, rfl, hrest, .inr ⟨hfind, rfl⟩⟩

/-- What holds of all values before joining and of all that come from joining holds of all joined
entries. -/
lemma forall_joinEntries {p : Value → Prop}
    (hjoin : ∀ v w u, p v → p w → join v w = .ok u → p u) (hupper : ∀ e ∈ upper, p e.2)
    (hlower : ∀ e ∈ lower, p e.2) {entries : List (Value × Value)}
    (h : joinEntries join upper lower = .ok entries) : ∀ e ∈ entries, p e.2 := by
  induction lower generalizing entries with
  | nil =>
      cases h
      exact fun _ he => nomatch he
  | cons e lower ih =>
      obtain ⟨hv, hlower⟩ := List.forall_mem_cons.mp hlower
      obtain ⟨joined, rest, rfl, hrest, hjoined⟩ := joinEntries_cons_eq_ok h
      refine List.forall_mem_cons.mpr ⟨?_, ih hlower hrest⟩
      rcases hjoined with ⟨f, hfind, hjoined⟩ | ⟨-, rfl⟩
      · exact hjoin e.2 f.2 joined hv (hupper f (List.mem_of_find?_eq_some hfind)) hjoined
      · exact hv

/-- Entries can be joined if the values that meet can. -/
lemma exists_joinEntries (hjoin : ∀ e ∈ lower, ∀ f ∈ upper, ∃ u, join e.2 f.2 = .ok u) :
    ∃ entries, joinEntries join upper lower = .ok entries := by
  induction lower with
  | nil => exact ⟨[], rfl⟩
  | cons e lower ih =>
      obtain ⟨he, hlower⟩ := List.forall_mem_cons.mp hjoin
      obtain ⟨rest, hrest⟩ := ih hlower
      rw [joinEntries, hrest]
      split
      next f hfind =>
        obtain ⟨joined, hjoined⟩ := he f (List.mem_of_find?_eq_some hfind)
        exact ⟨_, bind_eq_ok.mpr ⟨joined, hjoined, rfl⟩⟩
      next => exact ⟨_, rfl⟩

/-- Two mappings become one, with the joined entries of the lower one first. -/
lemma overlayTo_map_eq_ok {depth : Nat} {merged : Value}
    (h : overlayTo (depth + 1) (map lower) (map upper) = .ok merged) :
    ∃ joined, joinEntries (overlayTo depth) (parts upper) (parts lower) = .ok joined ∧
      merged = map (joined ++
        (parts upper).filter fun e => !lower.any fun f => f.1.sameKey e.1) := by
  obtain ⟨joined, hjoined, h⟩ := bind_eq_ok.mp h
  cases h
  exact ⟨joined, hjoined, rfl⟩

lemma overlayTo_of_not_map {depth : Nat} {lower upper : Value}
    (h : ¬ ∃ es fs, lower = map es ∧ upper = map fs) :
    overlayTo (depth + 1) lower upper = .ok upper := by
  rw [overlayTo]
  rintro es fs rfl rfl
  exact h ⟨es, fs, rfl, rfl⟩

/-- **Laying one whole value over another gives a whole value**, and the entries of a joined mapping
are whole themselves. -/
theorem isWithin_overlayTo {depth : Nat} {lower upper merged : Value}
    (hlower : lower.isWithin 0 = true) (hupper : upper.isWithin 0 = true)
    (h : overlayTo depth lower upper = .ok merged) :
    merged.isWithin 0 = true ∧ ∀ es fs, lower = map es → upper = map fs →
      ∃ entries, merged = map entries ∧ ∀ e ∈ entries, e.2.isWithin 0 = true := by
  induction depth generalizing lower upper merged with
  | zero => cases h
  | succ depth ih =>
      by_cases hmaps : ∃ es fs, lower = map es ∧ upper = map fs
      · obtain ⟨es, fs, rfl, rfl⟩ := hmaps
        obtain ⟨joined, hjoined, rfl⟩ := overlayTo_map_eq_ok h
        have hentries : ∀ e ∈ joined ++ (parts fs).filter
            fun e => !es.any fun f => f.1.sameKey e.1, e.2.isWithin 0 = true := by
          intro e he
          rcases List.mem_append.mp he with he | he
          · exact forall_joinEntries (fun v w u hv hw hu => (ih hv hw hu).1)
              (isWithin_parts hupper) (isWithin_parts hlower) hjoined e he
          · exact isWithin_parts hupper e (List.mem_filter.mp he).1
        refine ⟨?_, fun _ _ _ _ => ⟨_, rfl, hentries⟩⟩
        exact isWithin_map_iff.mpr fun e he => isWithin_mono (by omega) (hentries e he)
      · rw [overlayTo_of_not_map hmaps] at h
        cases h
        exact ⟨hupper, fun es fs hes hfs => absurd ⟨es, fs, hes, hfs⟩ hmaps⟩

/-! ## Plain values -/

/-- Where there are no references it does not matter how many collections stand around. -/
lemma isPlain_iff {depth : Nat} {v : Value} :
    v.isPlain = true ↔ v.everyOuter (fun _ _ => false) depth = true := by
  constructor
  · exact everyOuter_mono fun _ _ hfalse => absurd hfalse (by decide)
  · exact everyOuter_mono fun _ _ hfalse => absurd hfalse (by decide)

lemma isPlain_list_iff {items : List Value} :
    (list items).isPlain = true ↔ ∀ v ∈ items, v.isPlain = true := by
  simp only [isPlain, everyOuter_list, ← isPlain_iff]

lemma isPlain_tuple_iff {items : List Value} :
    (tuple items).isPlain = true ↔ ∀ v ∈ items, v.isPlain = true := by
  simp only [isPlain, everyOuter_tuple]

lemma isPlain_map_iff : (map upper).isPlain = true ↔ ∀ e ∈ upper, e.2.isPlain = true := by
  simp only [isPlain, everyOuter_map, ← isPlain_iff]

lemma size_pos (v : Value) : 0 < v.size := by
  cases v <;> simp only [size] <;> omega

lemma size_lt_of_mem {e : Value × Value} (h : e ∈ upper) : e.2.size < (map upper).size := by
  rw [size]
  induction upper with
  | nil => cases h
  | cons f upper ih =>
      rw [sizeEntries]
      rcases List.mem_cons.mp h with rfl | h
      · omega
      · have := ih h
        omega

/-- The parts of a plain mapping are plain, and smaller. -/
lemma isPlain_parts {depth : Nat} (h : (map upper).isPlain = true ∧ (map upper).size ≤ depth + 1) :
    ∀ e ∈ parts upper, e.2.isPlain = true ∧ e.2.size ≤ depth := by
  obtain ⟨hplain, hsize⟩ := h
  rw [isPlain_map_iff] at hplain
  rw [parts_of_isWithin fun e he => isWithin_of_isPlain (hplain e he)]
  intro e he
  have := size_lt_of_mem he
  exact ⟨hplain e he, by omega⟩

/-- One of two values may be as deep as it likes if the other is plain. -/
theorem exists_overlayTo {depth : Nat} {lower upper : Value}
    (plain : (lower.isPlain = true ∧ lower.size ≤ depth) ∨
      (upper.isPlain = true ∧ upper.size ≤ depth)) :
    ∃ merged, overlayTo depth lower upper = .ok merged := by
  induction depth generalizing lower upper with
  | zero =>
      have := size_pos lower
      have := size_pos upper
      omega
  | succ depth ih =>
      by_cases hmaps : ∃ es fs, lower = map es ∧ upper = map fs
      · obtain ⟨es, fs, rfl, rfl⟩ := hmaps
        have hjoin : ∀ e ∈ parts es, ∀ f ∈ parts fs, ∃ u, overlayTo depth e.2 f.2 = .ok u :=
          fun e he f hf => ih (plain.imp (isPlain_parts · e he) (isPlain_parts · f hf))
        obtain ⟨joined, hjoined⟩ := exists_joinEntries hjoin
        rw [overlayTo]
        exact ⟨_, bind_eq_ok.mpr ⟨joined, hjoined, rfl⟩⟩
      · exact ⟨upper, overlayTo_of_not_map hmaps⟩

/-- **A plain value can be laid over any value, and any value over a plain one.** -/
theorem exists_overlay {lower upper : Value} (plain : lower.isPlain = true ∨ upper.isPlain = true) :
    ∃ merged, overlay lower upper = .ok merged := by
  have hlower := Nat.le_mul_of_pos_right lower.size (size_pos upper)
  have hupper := Nat.le_mul_of_pos_left upper.size (size_pos lower)
  refine exists_overlayTo (plain.imp (fun h => ⟨h, ?_⟩) fun h => ⟨h, ?_⟩)
  · omega
  · omega

end Overlay

end Criteria.Value
