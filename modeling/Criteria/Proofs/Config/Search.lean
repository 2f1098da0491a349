import Criteria.Proofs.Config.Whole

/-!
# Searching layered settings

Settings that were laid on top of each other answer a key as if one looked for it from the top down,
layer by layer.

* `Value.seek` — what one layer says about a key: it has the value, or something other than a mapping
  is in the way, or it leaves the key to the layers below.
* `Value.scan` — the answer of the first layer that does not.
* `Value.Agree` — equality of answers, mappings apart: of those it asks only that both are mappings.
* **`follow_overlayTo`** — a joined value answers like the upper one unless that leaves the key to the
  lower one, by induction on the parts of the key.
-/

namespace Criteria.Value

/-! ## Searching -/

/-- What a layer says about a key. -/
inductive Finding where
  | found (v : Value)
  /-- Something other than a mapping stands before the end of the key. -/
  | blocked
  /-- A mapping has no part under the next part of the key. -/
  | undecided

/-- The answer of a layer, on top of layers that answer `below`. -/
def Finding.over (below : Option Value) : Finding → Option Value
  | found v => some v
  | blocked => .none
  | undecided => below

/-- What a layer says about the parts of a key. -/
def seek : List String → Value → Finding
  | [], v => .found v
  | name :: names, .map entries =>
    match (map entries).child? name with
    | some inner => seek names inner
    | .none => .undecided
  | _ :: _, _ => .blocked

/-- The answer of the first layer that decides, the topmost first. -/
def scan (names : List String) : List Value → Option Value
  | [] => .none
  | v :: vs => (seek names v).over (scan names vs)

/-- Whether two answers are equal, or both of them are mappings. -/
def Agree (a b : Option Value) : Prop :=
  a = b ∨ ∃ es fs, a = some (map es) ∧ b = some (map fs)

lemma Agree.refl (a : Option Value) : Agree a a := .inl rfl

lemma Agree.trans {a b c : Option Value} (hab : Agree a b) (hbc : Agree b c) : Agree a c := by
  rcases hab with rfl | ⟨es, fs, rfl, rfl⟩
  · exact hbc
  · rcases hbc with rfl | ⟨es', fs', hes, rfl⟩
    · exact .inr ⟨es, fs, rfl, rfl⟩
    · exact .inr ⟨es, fs', rfl, rfl⟩

/-- Agreement of what lies below is agreement of the whole. -/
lemma Finding.over_agree (f : Finding) {a b : Option Value} (h : Agree a b) :
    Agree (f.over a) (f.over b) := by
  cases f with
  | found | blocked => exact .inl rfl
  | undecided => exact h

/-- Following a key is to ask a single layer. -/
lemma follow_eq_over (names : List String) (v : Value) :
    v.follow names = (seek names v).over .none := by
  induction names generalizing v with
  | nil => rfl
  | cons name names ih =>
      rw [follow]
      cases v with
      | map entries =>
          rw [seek]
          cases (map entries).child? name with
          | none => rfl
          | some inner => exact ih inner
      | _ => rfl

/-! ## Entries under a text -/

/-- Only a text equals a text. -/
lemma eq_str_iff {k : Value} {s : String} : k.eq (.str s) = true ↔ k = .str s := by
  constructor
  · intro h
    cases k with
    | str t => exact congrArg Value.str (beq_iff_eq.mp h)
    | _ => cases h
  · rintro rfl
    exact beq_self_eq_true s

lemma sameKey_str (k : Value) (s : String) : k.sameKey (.str s) = k.eq (.str s) := by
  cases k <;> rfl

/-- The value of the first entry under a text. -/
def under? (name : String) (entries : List (Value × Value)) : Option Value :=
  (entries.find? fun e => e.1.eq (.str name)).map (·.2)

lemma child?_map (name : String) (entries : List (Value × Value)) :
    (map entries).child? name = under? name (parts entries) := rfl

section Entries

variable {name : String} {k v : Value} {entries : List (Value × Value)}

lemma under?_cons_self (h : k.eq (.str name) = true) :
    under? name ((k, v) :: entries) = some v := by
  rw [under?, List.find?_cons, h]
  rfl

lemma under?_cons_of_ne (h : ¬ k.eq (.str name) = true) :
    under? name ((k, v) :: entries) = under? name entries := by
  rw [Bool.not_eq_true] at h
  rw [under?, List.find?_cons, h, under?]

lemma under?_append (es fs : List (Value × Value)) :
    under? name (es ++ fs) = (under? name es).or (under? name fs) := by
  simp only [under?, List.find?_append, Option.map_or]

lemma under?_eq_none_iff :
    under? name entries = .none ↔ ∀ k ∈ entries.map (·.1), ¬ k.eq (.str name) = true := by
  rw [under?, Option.map_eq_none_iff, List.find?_eq_none, List.forall_mem_map]

lemma keys_parts (entries : List (Value × Value)) :
    (parts entries).map (·.1) = entries.map (·.1) := by
  rw [parts, List.map_map]
  calc entries.zipIdx.map (fun e => e.1.1) = (entries.zipIdx.map (·.1)).map (·.1) := by
        rw [List.map_map]
        rfl
    _ = entries.map (·.1) := by rw [List.zipIdx_map_fst]

/-- An entry under a text may stand among those with new keys if the other mapping has none. -/
lemma under?_filter {lower : List (Value × Value)} (h : under? name lower = .none) :
    under? name (entries.filter fun e => !lower.any fun f => f.1.sameKey e.1) =
      under? name entries := by
  rw [under?_eq_none_iff, List.forall_mem_map] at h
  have hkept : ∀ e : Value × Value,
      ((!lower.any fun f => f.1.sameKey e.1) && e.1.eq (.str name)) = e.1.eq (.str name) := by
    intro e
    by_cases hname : e.1.eq (.str name) = true
    · have hnew : (lower.any fun f => f.1.sameKey e.1) = false := by
        rw [List.any_eq_false]
        intro f hf
        rw [eq_str_iff.mp hname, sameKey_str]
        exact h f hf
      rw [hnew, Bool.not_false, Bool.true_and]
    · rw [Bool.not_eq_true] at hname
      rw [hname, Bool.and_false]
  simp only [under?, List.find?_filter, ← Bool.and_eq_true, hkept, Bool.decide_eq_true]

end Entries

section Overlay

variable {join : Value → Value → Except Fault Value} {lower upper : List (Value × Value)}
  {name : String}

/-- Joining leaves an entry under a text as it is, or joins it with that in the upper mapping. -/
lemma under?_joinEntries {entries : List (Value × Value)}
    (h : joinEntries join upper lower = .ok entries) :
    (under? name lower = .none ∧ under? name entries = .none) ∨
      ∃ v u, under? name lower = some v ∧ under? name entries = some u ∧
        (under? name upper = .none ∧ u = v ∨ ∃ w, under? name upper = some w ∧ join v w = .ok u) := by
  induction lower generalizing entries with
  | nil =>
      cases h
      exact .inl ⟨rfl, rfl⟩
  | cons e lower ih =>
      obtain ⟨k, v⟩ := e
      obtain ⟨joined, rest, rfl, hrest, hjoined⟩ := joinEntries_cons_eq_ok h
      by_cases hname : k.eq (.str name) = true
      · right
        refine ⟨v, joined, under?_cons_self hname, under?_cons_self hname, ?_⟩
        simp only [eq_str_iff.mp hname, sameKey_str] at hjoined
        rcases hjoined with ⟨e, hfind, hjoined⟩ | ⟨hfind, rfl⟩
        · refine .inr ⟨e.2, ?_, hjoined⟩
          rw [under?, hfind, Option.map_some]
        · refine .inl ⟨?_, rfl⟩
          rw [under?, hfind, Option.map_none]
      · rw [under?_cons_of_ne hname, under?_cons_of_ne hname]
        exact ih hrest

/-- What stands under a text in a joined mapping. -/
lemma under?_overlayTo {depth : Nat} {entries : List (Value × Value)}
    (hlower : (map lower).isWithin 0 = true) (hupper : (map upper).isWithin 0 = true)
    (h : overlayTo (depth + 1) (map lower) (map upper) = .ok (map entries)) :
    (under? name (parts upper) = .none ∧
        (map entries).child? name = under? name (parts lower)) ∨
      ∃ w u, under? name (parts upper) = some w ∧ (map entries).child? name = some u ∧
        (under? name (parts lower) = .none ∧ u = w ∨
          ∃ v, under? name (parts lower) = some v ∧ overlayTo depth v w = .ok u) := by
  obtain ⟨joined, hjoined, hentries⟩ := overlayTo_map_eq_ok h
  obtain ⟨_, ⟨⟩, hwhole⟩ := (isWithin_overlayTo hlower hupper h).2 lower upper rfl rfl
  rw [child?_map, parts_of_isWithin hwhole]
  cases hentries
  rw [under?_append]
  rcases @under?_joinEntries _ _ _ name _ hjoined with ⟨hnone, hnew⟩ | ⟨v, u, hv, hu, hjoin⟩
  · have hlacks : under? name lower = .none := by
      rw [under?_eq_none_iff, keys_parts, ← under?_eq_none_iff] at hnone
      exact hnone
    rw [hnew, Option.none_or, under?_filter hlacks, hnone]
    cases under? name (parts upper) with
    | none => exact .inl ⟨rfl, rfl⟩
    | some w => exact .inr ⟨w, w, rfl, rfl, .inl ⟨rfl, rfl⟩⟩
  · rw [hu, Option.some_or, hv]
    rcases hjoin with ⟨hnone, rfl⟩ | ⟨w, hw, hjoin⟩
    · exact .inl ⟨hnone, rfl⟩
    · exact .inr ⟨w, u, hw, rfl, .inr ⟨v, rfl, hjoin⟩⟩

lemma isWithin_of_under? {entries : List (Value × Value)} {v : Value}
    (hwhole : (map entries).isWithin 0 = true) (h : under? name (parts entries) = some v) :
    v.isWithin 0 = true := by
  obtain ⟨e, hfind, rfl⟩ := Option.map_eq_some_iff.mp h
  exact isWithin_parts hwhole e (List.mem_of_find?_eq_some hfind)

lemma child?_of_not_map {v : Value} (h : ¬ ∃ es, v = map es) : v.child? name = .none := by
  cases v with
  | map es => exact absurd ⟨es, rfl⟩ h
  | _ => rfl

/-- A value that replaces the lower one answers for both. -/
lemma over_follow_of_not_map {lower upper : Value}
    (h : ¬ ∃ es fs, lower = map es ∧ upper = map fs) (names : List String) :
    upper.follow (name :: names) =
      (seek (name :: names) upper).over (lower.follow (name :: names)) := by
  rw [follow_eq_over]
  by_cases hupper : ∃ fs, upper = map fs
  · obtain ⟨fs, rfl⟩ := hupper
    have hlower : lower.child? name = .none :=
      child?_of_not_map fun ⟨es, hes⟩ => h ⟨es, fs, hes, rfl⟩
    rw [follow, hlower, Option.bind_none]
  · have hblocked : seek (name :: names) upper = .blocked := by
      cases upper with
      | map fs => exact absurd ⟨fs, rfl⟩ hupper
      | _ => rfl
    rw [hblocked]
    rfl

/-- **A joined value answers like the upper one, unless that leaves the key to the lower one.**  By
induction on the parts of the key: of two mappings under one text the parts are joined again. -/
theorem follow_overlayTo {depth : Nat} {lower upper merged : Value}
    (hlower : lower.isWithin 0 = true) (hupper : upper.isWithin 0 = true)
    (h : overlayTo depth lower upper = .ok merged) (names : List String) :
    Agree (merged.follow names) ((seek names upper).over (lower.follow names)) := by
  induction names generalizing depth lower upper merged with
  | nil =>
      cases depth with
      | zero => cases h
      | succ depth =>
          by_cases hmaps : ∃ es fs, lower = map es ∧ upper = map fs
          · obtain ⟨es, fs, rfl, rfl⟩ := hmaps
            obtain ⟨joined, -, rfl⟩ := overlayTo_map_eq_ok h
            exact .inr ⟨_, fs, rfl, rfl⟩
          · rw [overlayTo_of_not_map hmaps] at h
            cases h
            exact .refl _
  | cons name names ih =>
      cases depth with
      | zero => cases h
      | succ depth =>
          by_cases hmaps : ∃ es fs, lower = map es ∧ upper = map fs
          · obtain ⟨es, fs, rfl, rfl⟩ := hmaps
            obtain ⟨joined, -, rfl⟩ := overlayTo_map_eq_ok h
            rw [follow, follow, seek, child?_map name es, child?_map name fs]
            rcases @under?_overlayTo _ _ name _ _ hlower hupper h with
              ⟨hlacks, hchild⟩ | ⟨w, u, hw, hchild, hjoin⟩
            · rw [hlacks, hchild]
              exact .refl _
            · rw [hw, hchild, Option.bind_some]
              rcases hjoin with ⟨hlacks, rfl⟩ | ⟨v, hv, hjoin⟩
              · rw [hlacks, Option.bind_none, follow_eq_over]
                exact .refl _
              · rw [hv, Option.bind_some]
                exact ih (isWithin_of_under? hlower hv) (isWithin_of_under? hupper hw) hjoin
          · rw [overlayTo_of_not_map hmaps] at h
            cases h
            rw [over_follow_of_not_map hmaps]
            exact .refl _

end Overlay

end Criteria.Value
