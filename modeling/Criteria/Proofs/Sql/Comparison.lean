import Criteria.Proofs.Eval.Quiet
import Criteria.Proofs.Sql.Denotation
import Mathlib.Data.List.Basic

/-!
# Comparisons of column values

Values of one column type are compared in the query language as they are in memory.

**Values.**
* `ColumnType.admits`, `ColumnType.admitsConstant` — the values of a column, and the constants that
  are fit for a comparison with one.
* `order_admitted` — two values of one type have one order on both sides.
* `unambiguous` — a text looked for in another text.  Evaluation takes it for a part, a query for one
  of the characters.
* `contains_admitted` — membership in a collection of such values is the same on both sides if it is
  unambiguous.
* `unambiguous_of_contains` — and only then.

**Clauses.**  The clause for a comparison of a column with a constant has the verdict that evaluation
gives.
* `verdict_compareClause` — for the relations, with null as a constant that no value equals.
* **`compareOperands_column`**, **`compareOperands_constant`** — for all comparisons, with the column on
  the left, and for the relations, with the column on the right.
-/

namespace Criteria.Sql

namespace ColumnType

/-- Whether a value that is not null may stand in a column of the type. -/
def admits : ColumnType → Value → Bool
  | integer, .int _ | text, .str _ | boolean, .bool _ => true
  | _, _ => false

/-- Whether a constant is fit for a comparison with a column of the type: a value of that type, for
membership a collection of such values, for a pattern a text that leaves no backslash dangling.  A text
is a collection of texts.  Equality also allows null, and sameness allows nothing else. -/
def admitsConstant (t : ColumnType) (op : CompareOp) (d : Datum) : Bool :=
  match op with
  | .eq | .ne => t.admits d.value || d.value.isNone
  | .lt | .le | .gt | .ge => t.admits d.value
  | .isIn =>
    match d.iterate with
    | .ok items => items.all fun i => t.admits i.value
    | .error _ => false
  | .contains => t == .text && t.admits d.value
  | .like => t == .text && t.admits d.value && d.value.text?.all fun s => !dangles s
  | .same | .notSame => d.value.isNone

end ColumnType

/-- Whether it makes no difference if an item is looked for as a part of a text or among the characters
of the text: it is a single character, or occurs nowhere. -/
def unambiguous (item container : Value) : Bool :=
  match item, container with
  | .str s, .str text => s.length == 1 || !occursIn s.toList text.toList
  | _, _ => true

/-! ## The order of texts -/

/-- Different characters have different numbers: no character has the number of a half. -/
lemma codePoint_injective : Function.Injective Text.codePoint := by
  intro c d h
  have hc : c.toNat < 0xd800 ∨ 0xdfff < c.toNat ∧ c.toNat < 0x110000 := c.valid
  have hd : d.toNat < 0xd800 ∨ 0xdfff < d.toNat ∧ d.toNat < 0x110000 := d.valid
  apply Char.toNat_inj.mp
  simp only [Text.codePoint, Bool.and_eq_true, decide_eq_true_eq] at h
  split_ifs at h <;> omega

section Lexicographic

lemma lexicographic_eq_iff : ∀ xs ys : List Nat, lexicographic xs ys = .eq ↔ xs = ys
  | [], [] => by simp [lexicographic]
  | [], _ :: _ | _ :: _, [] => by simp [lexicographic]
  | x :: xs, y :: ys => by
      rw [lexicographic, List.cons.injEq, ← lexicographic_eq_iff xs ys, ← Nat.compare_eq_eq]
      cases compare x y <;> simp

lemma lexicographic_swap : ∀ xs ys : List Nat,
    (lexicographic xs ys).swap = lexicographic ys xs
  | [], [] | [], _ :: _ | _ :: _, [] => rfl
  | x :: xs, y :: ys => by
      rw [lexicographic, lexicographic, ← Nat.compare_swap x y, ← lexicographic_swap xs ys]
      cases compare x y <;> rfl

lemma compareText_eq_iff (s t : String) : compareText s t = .eq ↔ s = t := by
  have hmap : Function.Injective (List.map Text.codePoint) :=
    List.map_injective_iff.mpr codePoint_injective
  rw [compareText, lexicographic_eq_iff, hmap.eq_iff, String.toList_inj]

end Lexicographic

/-! ## Two values of one type -/

/-- Reading a comparison from the other side swaps the order. -/
lemma compareValues_swap (v w : Value) :
    compareValues w v = (compareValues v w).map Ordering.swap := by
  cases v <;> cases w <;> first | rfl | skip
  case bool a b => cases a <;> cases b <;> rfl
  case int a b => simp [compareValues, Int.compare_swap]
  case str s t => simp [compareValues, compareText, lexicographic_swap]

lemma holdsOf_flip (r : Relation) (o : Ordering) : r.flip.holdsOf o = r.holdsOf o.swap := by
  cases r <;> cases o <;> rfl

/-- **Two values of one type have one order.** -/
theorem order_admitted {t : ColumnType} {v w : Value} (hv : t.admits v = true)
    (hw : t.admits w = true) :
    ∃ o, compareValues v w = some o ∧ v.eq w = (o == .eq) ∧
      ∀ op : Inequality, v.ordered op w = .ok (op.holds o) := by
  cases t with
  | integer =>
      cases v <;> first | (exact absurd hv Bool.false_ne_true) | skip
      cases w <;> first | (exact absurd hw Bool.false_ne_true) | skip
      case int.int m n =>
        refine ⟨compare m n, rfl, ?_, fun op => ?_⟩
        · show ((Number.int m).compare? (.int n) == some .eq) = _
          rw [Number.compare?_int]
          rfl
        · show Except.ok (((Number.int m).compare? (.int n)).any op.holds) = _
          rw [Number.compare?_int]
          rfl
  | text =>
      cases v <;> first | (exact absurd hv Bool.false_ne_true) | skip
      cases w <;> first | (exact absurd hw Bool.false_ne_true) | skip
      case str.str s u =>
        refine ⟨compareText s u, rfl, ?_, fun op => rfl⟩
        show (s == u) = _
        rw [Bool.eq_iff_iff, beq_iff_eq, beq_iff_eq, compareText_eq_iff]
  | boolean =>
      cases v <;> first | (exact absurd hv Bool.false_ne_true) | skip
      cases w <;> first | (exact absurd hw Bool.false_ne_true) | skip
      case bool.bool a b =>
        cases a <;> cases b <;> exact ⟨_, rfl, rfl, fun op => by cases op <;> rfl⟩

/-- A value of a column is an integer, a text or a truth value. -/
lemma admits_cases {t : ColumnType} {v : Value} (h : t.admits v = true) :
    (∃ n, v = .int n) ∨ (∃ s, v = .str s) ∨ ∃ b, v = .bool b := by
  cases v with
  | int n => exact .inl ⟨n, rfl⟩
  | str s => exact .inr (.inl ⟨s, rfl⟩)
  | bool b => exact .inr (.inr ⟨b, rfl⟩)
  | _ => cases t <;> exact absurd h Bool.false_ne_true

lemma text_of_admits {v : Value} (h : ColumnType.text.admits v = true) : ∃ s, v = .str s := by
  cases v with
  | str s => exact ⟨s, rfl⟩
  | _ => exact absurd h Bool.false_ne_true

lemma isNone_of_admits {t : ColumnType} {v : Value} (h : t.admits v = true) : v.isNone = false := by
  obtain ⟨n, rfl⟩ | ⟨s, rfl⟩ | ⟨b, rfl⟩ := admits_cases h <;> rfl

lemma truth_of_not_null (r : Relation) {v w : Value} (hv : v.isNone = false)
    (hw : w.isNone = false) : r.truth v w = (compareValues v w).map r.holdsOf := by
  rw [Relation.truth, hv, hw, Bool.or_self, Bool.and_false, if_neg Bool.false_ne_true]

/-- A relation read from the other side. -/
lemma truth_flip (r : Relation) {v w : Value} (hv : v.isNone = false) (hw : w.isNone = false) :
    r.flip.truth w v = r.truth v w := by
  have hswap : r.flip.holdsOf ∘ Ordering.swap = r.holdsOf := by
    funext o
    rw [Function.comp_apply, holdsOf_flip, Ordering.swap_swap]
  rw [truth_of_not_null _ hw hv, truth_of_not_null _ hv hw, compareValues_swap v w,
    Option.map_map, hswap]

section Data

variable {t : ColumnType} {v w : Value} {o q : Origin}

/-- **Relations come out alike** on two values of one type. -/
theorem holds_relation {op : CompareOp} {r : Relation} (hr : relation? op = some r)
    (hv : t.admits v = true) (hw : t.admits w = true) :
    ∃ b, op.holds (.datum ⟨v, o⟩) (.datum ⟨w, q⟩) = .ok b ∧ r.truth v w = some b := by
  obtain ⟨order, horder, heq, hordered⟩ := order_admitted hv hw
  have htruth : r.truth v w = some (r.holdsOf order) := by
    rw [truth_of_not_null r (isNone_of_admits hv) (isNone_of_admits hw), horder]
    rfl
  have hdatumEq : (⟨v, o⟩ : Datum).eq ⟨w, q⟩ = (order == .eq) := by
    rw [← heq]
    obtain ⟨n, rfl⟩ | ⟨s, rfl⟩ | ⟨b, rfl⟩ := admits_cases hv <;> rfl
  have hdatumOrdered : ∀ i : Inequality,
      (⟨v, o⟩ : Datum).ordered i ⟨w, q⟩ = .ok (i.holds order) := by
    intro i
    rw [← hordered i]
    obtain ⟨n, rfl⟩ | ⟨s, rfl⟩ | ⟨b, rfl⟩ := admits_cases hv <;> rfl
  refine ⟨r.holdsOf order, ?_, htruth⟩
  cases op <;> simp only [relation?, Option.some.injEq, reduceCtorEq] at hr
  case eq =>
    subst hr
    exact congrArg Except.ok hdatumEq
  case ne =>
    subst hr
    exact congrArg (fun b => Except.ok (!b)) hdatumEq
  all_goals
    subst hr
    exact hdatumOrdered _

/-- No value of a column equals null. -/
lemma eq_none_of_admits (hv : t.admits v = true) : (⟨v, o⟩ : Datum).eq ⟨.none, q⟩ = false := by
  obtain ⟨n, rfl⟩ | ⟨s, rfl⟩ | ⟨b, rfl⟩ := admits_cases hv <;> rfl

lemma none_eq_of_admits (hv : t.admits v = true) : (⟨.none, q⟩ : Datum).eq ⟨v, o⟩ = false := by
  obtain ⟨n, rfl⟩ | ⟨s, rfl⟩ | ⟨b, rfl⟩ := admits_cases hv <;> rfl

/-- No value of a column is null. -/
lemma same_none_of_admits (hv : t.admits v = true) :
    (⟨v, o⟩ : Datum).same ⟨.none, q⟩ = false := by
  obtain ⟨n, rfl⟩ | ⟨s, rfl⟩ | ⟨b, rfl⟩ := admits_cases hv <;>
    simp [Datum.same, Value.interned, Value.compatible]

/-- One scalar object has one content. -/
lemma eq_of_same (hv : t.admits v = true) (hw : t.admits w = true)
    (h : (⟨v, o⟩ : Datum).same ⟨w, q⟩ = true) : v = w := by
  obtain ⟨n, rfl⟩ | ⟨s, rfl⟩ | ⟨b, rfl⟩ := admits_cases hv <;>
    obtain ⟨n', rfl⟩ | ⟨s', rfl⟩ | ⟨b', rfl⟩ := admits_cases hw <;>
    simp [Datum.same, Value.interned, Value.compatible] at h ⊢ <;>
    tauto

lemma eq_self_of_admits (hv : t.admits v = true) : v.eq v = true := by
  obtain ⟨n, rfl⟩ | ⟨s, rfl⟩ | ⟨b, rfl⟩ := admits_cases hv
  · exact Number.eq_int_self n
  · exact beq_self_eq_true s
  · cases b <;> rfl

/-- To find a value of one type in a container is to find an equal one. -/
lemma alike_of_admits (hv : t.admits v = true) (hw : t.admits w = true) :
    (⟨v, o⟩ : Datum).alike ⟨w, q⟩ = v.eq w := by
  have heq : (⟨v, o⟩ : Datum).eq ⟨w, q⟩ = v.eq w := by
    obtain ⟨n, rfl⟩ | ⟨s, rfl⟩ | ⟨b, rfl⟩ := admits_cases hv <;> rfl
  rw [Datum.alike, heq]
  cases h : (⟨v, o⟩ : Datum).same ⟨w, q⟩ with
  | false => rfl
  | true =>
      have hvw := eq_of_same hv hw h
      rw [← hvw, eq_self_of_admits hv]
      rfl

/-! ### Membership -/

lemma amongTruth_admitted (hv : t.admits v = true) : ∀ {ws : List Value},
    (∀ w ∈ ws, t.admits w = true) → amongTruth v ws = some (ws.any v.eq)
  | [], _ => rfl
  | w :: ws, h => by
      obtain ⟨hw, hws⟩ := List.forall_mem_cons.mp h
      obtain ⟨order, horder, heq, -⟩ := order_admitted hv hw
      have hhead : Relation.eq.truth v w = some (v.eq w) := by
        rw [truth_of_not_null _ (isNone_of_admits hv) (isNone_of_admits hw), horder, heq]
        rfl
      have htail : amongTruth v ws = some (ws.any v.eq) := amongTruth_admitted hv hws
      show Connective.or.combine (Relation.eq.truth v w) (amongTruth v ws) = _
      rw [hhead, htail, List.any_cons]
      cases v.eq w <;> cases ws.any v.eq <;> rfl

/-- Items are found by their values. -/
lemma any_alike (hv : t.admits v = true) : ∀ {items : List Datum},
    (∀ i ∈ items, t.admits i.value = true) →
      items.any (⟨v, o⟩ : Datum).alike = (items.map (·.value)).any v.eq
  | [], _ => rfl
  | ⟨w, _⟩ :: items, h => by
      obtain ⟨hw, hitems⟩ := List.forall_mem_cons.mp h
      rw [List.any_cons, List.map_cons, List.any_cons, any_alike hv hitems, alike_of_admits hv hw]

lemma value_parts (d : Datum) (vs : List Value) : (d.parts vs).map (·.value) = vs := by
  rw [Datum.parts, List.map_map]
  exact List.zipIdx_map_fst 0 vs

/-- Bytes are a collection of integers. -/
lemma contains_bytes {bs : List UInt8} {origin : Origin} {b : Bool} (hv : t.admits v = true)
    (hall : ∀ w ∈ bs.map fun x => Value.int x.toNat, t.admits w = true)
    (h : (⟨.bytes bs, origin⟩ : Datum).contains ⟨v, o⟩ = .ok b) :
    amongTruth v (bs.map fun x => .int x.toNat) = some b := by
  rw [amongTruth_admitted hv hall]
  obtain ⟨n, rfl⟩ | ⟨s, rfl⟩ | ⟨c, rfl⟩ := admits_cases hv
  · have hint : ∀ m : Int, (Value.int n).eq (.int m) = (m == n) := by
      intro m
      show ((Number.int n).compare? (.int m) == some .eq) = (m == n)
      rw [Number.compare?_int, Bool.eq_iff_iff, beq_iff_eq, beq_iff_eq, Option.some.injEq,
        Int.compare_eq_eq]
      exact eq_comm
    simp only [Datum.contains] at h
    split_ifs at h
    rw [← Except.ok.inj h, List.any_map]
    exact congrArg some (congrArg (List.any bs) (funext fun x => hint x.toNat))
  · cases h
  · -- no byte is a truth value, so there are no bytes
    cases bs with
    | nil =>
        cases h
        rfl
    | cons x bs =>
        have hx : t.admits (.int x.toNat) = true := hall _ (List.mem_cons_self)
        cases t <;> first | exact absurd hv Bool.false_ne_true | exact absurd hx Bool.false_ne_true

lemma occursIn_singleton (x : Char) (text : List Char) : occursIn [x] text = text.any (x == ·) := by
  induction text with
  | nil => rfl
  | cons c text ih =>
      rw [occursIn, ih, List.any_cons, List.isPrefixOf_cons_cons, List.isPrefixOf_nil_left,
        Bool.and_true]

/-- Among the characters of a text stand the texts of one character that occur in it. -/
lemma any_characters (s text : String) :
    (text.toList.map fun c => Value.str (String.singleton c)).any (Value.str s).eq =
      (s.length == 1 && occursIn s.toList text.toList) := by
  have heq : ∀ c : Char, (Value.str s).eq (.str (String.singleton c)) = (s.toList == [c]) := by
    intro c
    show (s == String.singleton c) = _
    rw [Bool.eq_iff_iff, beq_iff_eq, beq_iff_eq, ← String.toList_inj, String.toList_singleton]
  rw [List.any_map, ← String.length_toList]
  simp only [Function.comp_def, heq]
  match s.toList with
  | [] => exact List.any_eq_false.mpr fun c _ => Bool.false_ne_true
  | [x] =>
      rw [occursIn_singleton]
      simp
  | x :: y :: cs => simp

/-- A query finds a text among the characters of another one. -/
lemma amongTruth_characters {s text : String} {items : List Datum}
    (hitems : (⟨.str text, q⟩ : Datum).iterate = .ok items) :
    amongTruth (.str s) (items.map (·.value)) =
      some (s.length == 1 && occursIn s.toList text.toList) := by
  have hvalues : items.map (·.value) = text.toList.map fun c => .str (String.singleton c) := by
    cases hitems
    exact value_parts _ _
  have hadmits : ∀ w ∈ items.map (·.value), ColumnType.text.admits w = true := by
    intro w hw
    rw [hvalues] at hw
    obtain ⟨c, -, rfl⟩ := List.mem_map.mp hw
    rfl
  rw [amongTruth_admitted (t := .text) rfl hadmits, hvalues, any_characters]

/-- **Membership in a collection of values of one type.** -/
theorem contains_admitted {d : Datum} {items : List Datum} {b : Bool} (hv : t.admits v = true)
    (hitems : d.iterate = .ok items) (hall : ∀ i ∈ items, t.admits i.value = true)
    (hone : unambiguous v d.value = true) (h : d.contains ⟨v, o⟩ = .ok b) :
    amongTruth v (items.map (·.value)) = some b := by
  have hvalues : ∀ w ∈ items.map (·.value), t.admits w = true := by
    intro w hw
    obtain ⟨i, hi, rfl⟩ := List.mem_map.mp hw
    exact hall i hi
  have hhashable : v.hashable = .ok () := by
    obtain ⟨n, rfl⟩ | ⟨s, rfl⟩ | ⟨b, rfl⟩ := admits_cases hv <;> rfl
  have hfound : d.contains ⟨v, o⟩ = .ok (items.any (⟨v, o⟩ : Datum).alike) →
      amongTruth v (items.map (·.value)) = some b := by
    intro hany
    rw [hany] at h
    rw [amongTruth_admitted hv hvalues, ← any_alike hv hall, Except.ok.inj h]
  obtain ⟨w, origin⟩ := d
  cases w with
  | str text =>
      obtain ⟨n, rfl⟩ | ⟨s, rfl⟩ | ⟨c, rfl⟩ := admits_cases hv
      · cases h
      · rw [amongTruth_characters hitems, ← Except.ok.inj h]
        simp only [unambiguous] at hone
        cases hlength : s.length == 1
        · rw [hlength, Bool.false_or, Bool.not_eq_true'] at hone
          rw [hone, Bool.and_false]
        · rw [Bool.true_and]
      · cases h
  | list vs | tuple vs =>
      cases hitems
      exact hfound rfl
  | set vs | map es | view es =>
      cases hitems
      refine hfound ?_
      simp only [Datum.contains, hhashable]
  | bytes bs =>
      cases hitems
      rw [value_parts] at hvalues ⊢
      exact contains_bytes hv hvalues h
  | _ => cases hitems

/-- **Membership has the same outcome on both sides only if it is unambiguous.** -/
theorem unambiguous_of_contains {d : Datum} {items : List Datum} {b : Bool}
    (hitems : d.iterate = .ok items) (h : d.contains ⟨v, o⟩ = .ok b)
    (agree : amongTruth v (items.map (·.value)) = some true ↔ b = true) :
    unambiguous v d.value = true := by
  obtain ⟨w, origin⟩ := d
  cases v <;> first | rfl | skip
  cases w <;> first | rfl | skip
  case str.str s text =>
    have hoccurs : occursIn s.toList text.toList = b := Except.ok.inj h
    rw [amongTruth_characters hitems, hoccurs, Option.some.injEq] at agree
    show (s.length == 1 || !occursIn s.toList text.toList) = true
    rw [hoccurs]
    cases b with
    | false => rw [Bool.not_false, Bool.or_true]
    | true =>
        have hlength := agree.mpr rfl
        rw [Bool.and_true] at hlength
        rw [hlength, Bool.true_or]

end Data

/-! ## Clauses -/

section Clauses

variable {row : Column → Value} {r : Relation} {l c : Clause}

lemma verdict_comparison (r : Relation) (l m : Clause) :
    (Clause.comparison r l m).verdict row = r.truth (l.denote row) (m.denote row) := by
  rw [Clause.comparison, Clause.verdict_compare, Clause.denote_protect_operand,
    Clause.denote_protect_operand]

lemma reversible_comparison (hr : r.nullSafe = false) (l m : Clause) :
    (Clause.comparison r l m).reversible = true := by
  cases r <;> first | rfl | exact absurd hr.symm Bool.false_ne_true

/-- The clause for a relation with a constant that is not null. -/
lemma verdict_compareClause (row : Column → Value) (hr : r.nullSafe = false) {t : ColumnType}
    {d : Datum} (hd : t.admits d.value = true) (h : compareClause r l (.value d) = .ok c) :
    c.verdict row = r.truth (l.denote row) d.value ∧ c.reversible = true := by
  have hcomparison : ∀ m : Clause, m.denote row = d.value → c = .comparison r l m →
      c.verdict row = r.truth (l.denote row) d.value ∧ c.reversible = true := by
    rintro m hm rfl
    rw [verdict_comparison, hm]
    exact ⟨rfl, reversible_comparison hr l m⟩
  obtain ⟨w, origin⟩ := d
  obtain ⟨n, rfl⟩ | ⟨s, rfl⟩ | ⟨b, rfl⟩ := admits_cases hd
  · exact hcomparison (.bind l.bindBase (.int n)) rfl (Except.ok.inj h).symm
  · exact hcomparison (.bind l.bindBase (.str s)) rfl (Except.ok.inj h).symm
  · refine hcomparison (.truth b) rfl ?_
    cases r <;> first | exact (Except.ok.inj h).symm | cases h

/-- The clause for a relation with null is a test for it. -/
lemma verdict_compareClause_null {o : Origin} (hl : (l.denote row).isNone = false)
    (hr : r.nullSafe = false) (h : compareClause r l (.value ⟨.none, o⟩) = .ok c) :
    (r = .eq ∧ c.verdict row = some false ∨ r = .ne ∧ c.verdict row = some true) ∧
      c.reversible = true := by
  have hnull : ∀ r : Relation, r.nullSafe = true →
      r.truth (l.denote row) .none = some (r.holdsOf .lt) := by
    intro r hsafe
    rw [Relation.truth, hsafe, hl]
    rfl
  cases r with
  | eq =>
      cases h
      refine ⟨.inl ⟨rfl, ?_⟩, rfl⟩
      rw [verdict_comparison]
      exact hnull .same rfl
  | ne =>
      cases h
      refine ⟨.inr ⟨rfl, ?_⟩, rfl⟩
      rw [verdict_comparison]
      exact hnull .notSame rfl
  | same | notSame => cases hr
  | lt | le | gt | ge => cases h

end Clauses

/-! ## Columns and constants -/

/-- The verdict of an operand on a row. -/
def Operand.verdict (row : Column → Value) : Operand → Truth
  | .clause c => c.verdict row
  | .value d => .ofValue d.value
  | .root _ => none

/-- The operand is a reversible clause whose verdict is the outcome of the evaluation, if there is
one. -/
def StandsFor (row : Column → Value) (out : Operand) (outcome : Except Fault Bool) : Prop :=
  ∃ c, out = .clause c ∧ c.reversible = true ∧ ∀ b, outcome = .ok b → c.verdict row = some b

section Columns

variable {row : Column → Value} {c : Column} {op : CompareOp} {r : Relation} {d : Datum} {o : Origin}
  {out : Operand}

lemma nullSafe_of_relation (hr : relation? op = some r) :
    r.nullSafe = false ∧ r.flip.nullSafe = false := by
  cases op <;> cases hr <;> exact ⟨rfl, rfl⟩

lemma admitsConstant_relation {t : ColumnType} (hr : relation? op = some r)
    (hd : t.admitsConstant op d = true) : t.admits d.value = true ∨ d.value = .none := by
  have hnone : d.value.isNone = true → d.value = .none := by
    intro h
    cases hv : d.value <;> rw [hv] at h <;> first | rfl | exact absurd h Bool.false_ne_true
  cases op with
  | eq | ne => exact (Bool.or_eq_true _ _ ▸ hd).imp id hnone
  | lt | le | gt | ge => exact .inl hd
  | isIn | contains | like | same | notSame => cases hr

/-- The clause for a relation of a column with a constant stands for an outcome that is the truth of the
relation if the constant is a value, and that of a test for null if it is null. -/
lemma standsFor_compareClause {clause : Clause} {outcome : Except Fault Bool}
    (hsafe : r.nullSafe = false) (hrow : c.type.admits (row c) = true)
    (hd : c.type.admits d.value = true ∨ d.value = .none)
    (hclause : compareClause r (.column c) (.value d) = .ok clause)
    (value : c.type.admits d.value = true →
      ∃ b, outcome = .ok b ∧ r.truth (row c) d.value = some b)
    (null : d.value = .none → ∀ b, r = .eq ∧ b = false ∨ r = .ne ∧ b = true → outcome = .ok b) :
    StandsFor row (.clause clause) outcome := by
  obtain ⟨w, origin⟩ := d
  obtain hadmits | rfl := hd
  · obtain ⟨hverdict, hrev⟩ := verdict_compareClause row hsafe hadmits hclause
    obtain ⟨b', houtcome, htruth⟩ := value hadmits
    refine ⟨clause, rfl, hrev, fun b hb => ?_⟩
    rw [hverdict, ← Except.ok.inj (houtcome.symm.trans hb)]
    exact htruth
  · obtain ⟨hcases, hrev⟩ := verdict_compareClause_null (isNone_of_admits hrow) hsafe hclause
    refine ⟨clause, rfl, hrev, fun b hb => ?_⟩
    obtain ⟨hr, hverdict⟩ | ⟨hr, hverdict⟩ := hcases
    · have houtcome := null rfl false (.inl ⟨hr, rfl⟩)
      rw [hverdict, ← Except.ok.inj (houtcome.symm.trans hb)]
    · have houtcome := null rfl true (.inr ⟨hr, rfl⟩)
      rw [hverdict, ← Except.ok.inj (houtcome.symm.trans hb)]

/-- A column related to a constant. -/
lemma compareOperands_relation (hr : relation? op = some r) (hrow : c.type.admits (row c) = true)
    (hd : c.type.admitsConstant op d = true)
    (accepted : compareOperands op (.clause (.column c)) (.value d) = .ok out) :
    StandsFor row out (op.holds (.datum ⟨row c, o⟩) (.datum d)) := by
  unfold compareOperands at accepted
  rw [hr] at accepted
  obtain ⟨clause, hclause, ⟨rfl⟩⟩ := bind_eq_ok.mp accepted
  refine standsFor_compareClause (nullSafe_of_relation hr).1 hrow (admitsConstant_relation hr hd)
    hclause (holds_relation hr hrow) ?_
  obtain ⟨w, origin⟩ := d
  rintro rfl b hcases
  have heq := eq_none_of_admits (o := o) (q := origin) hrow
  obtain ⟨rfl, rfl⟩ | ⟨rfl, rfl⟩ := hcases
  · cases op <;> cases hr
    exact congrArg Except.ok heq
  · cases op <;> cases hr
    exact congrArg (fun b => Except.ok !b) heq

/-- A constant related to a column. -/
theorem compareOperands_constant (hr : relation? op = some r) (hrow : c.type.admits (row c) = true)
    (hd : c.type.admitsConstant op d = true)
    (accepted : compareOperands op (.value d) (.clause (.column c)) = .ok out) :
    StandsFor row out (op.holds (.datum d) (.datum ⟨row c, o⟩)) := by
  unfold compareOperands at accepted
  rw [hr] at accepted
  obtain ⟨clause, hclause, ⟨rfl⟩⟩ := bind_eq_ok.mp accepted
  obtain ⟨w, origin⟩ := d
  have hconstant := admitsConstant_relation hr hd
  have huncovered : (⟨w, origin⟩ : Datum).uncovered = ⟨w, origin⟩ := by
    obtain hadmits | rfl := hconstant
    · obtain ⟨n, rfl⟩ | ⟨s, rfl⟩ | ⟨b, rfl⟩ := admits_cases hadmits <;> rfl
    · rfl
  rw [huncovered] at hclause
  refine standsFor_compareClause (nullSafe_of_relation hr).2 hrow hconstant hclause
    (fun hadmits => ?_) ?_
  · obtain ⟨b, hholds, htruth⟩ := holds_relation (o := origin) (q := o) hr hadmits hrow
    refine ⟨b, hholds, ?_⟩
    rw [truth_flip r (isNone_of_admits hadmits) (isNone_of_admits hrow), htruth]
  · rintro rfl b hcases
    have heq := none_eq_of_admits (o := o) (q := origin) hrow
    obtain ⟨hflip, rfl⟩ | ⟨hflip, rfl⟩ := hcases
    · cases op <;> cases hr <;> cases hflip
      exact congrArg Except.ok heq
    · cases op <;> cases hr <;> cases hflip
      exact congrArg (fun b => Except.ok !b) heq

/-- A column among the items of a collection. -/
lemma compareOperands_isIn (hrow : c.type.admits (row c) = true)
    (hd : c.type.admitsConstant .isIn d = true) (hone : unambiguous (row c) d.value = true)
    (accepted : compareOperands .isIn (.clause (.column c)) (.value d) = .ok out) :
    StandsFor row out (CompareOp.isIn.holds (.datum ⟨row c, o⟩) (.datum d)) := by
  obtain ⟨items, hitems, hout⟩ := bind_eq_ok.mp accepted
  simp only [ColumnType.admitsConstant, hitems, List.all_eq_true] at hd
  refine ⟨_, (Except.ok.inj hout).symm, rfl, fun b hb => ?_⟩
  rw [Clause.verdict_within, Truth.notIf_false]
  exact contains_admitted hrow hitems hd hone hb

/-- The verdict on such a comparison is the outcome of the evaluation only if the comparison is
unambiguous. -/
lemma unambiguous_of_isIn {b : Bool}
    (accepted : compareOperands .isIn (.clause (.column c)) (.value d) = .ok out)
    (hb : CompareOp.isIn.holds (.datum ⟨row c, o⟩) (.datum d) = .ok b)
    (agree : out.verdict row = some true ↔ b = true) : unambiguous (row c) d.value = true := by
  obtain ⟨items, hitems, hout⟩ := bind_eq_ok.mp accepted
  cases hout
  refine unambiguous_of_contains hitems hb ?_
  rw [← agree, Operand.verdict, Clause.verdict_within, Truth.notIf_false]
  rfl

/-- A text column that contains a text. -/
lemma compareOperands_contains (hrow : c.type.admits (row c) = true)
    (hd : c.type.admitsConstant .contains d = true)
    (accepted : compareOperands .contains (.clause (.column c)) (.value d) = .ok out) :
    StandsFor row out (CompareOp.contains.holds (.datum ⟨row c, o⟩) (.datum d)) := by
  simp only [ColumnType.admitsConstant, Bool.and_eq_true, beq_iff_eq] at hd
  rw [hd.1] at hrow hd
  obtain ⟨text, htext⟩ := text_of_admits hrow
  obtain ⟨w, origin⟩ := d
  obtain ⟨s, rfl⟩ := text_of_admits hd.2
  refine ⟨_, (Except.ok.inj accepted).symm, rfl, fun b hb => ?_⟩
  rw [htext] at hb
  have hoccurs : occursIn s.toList text.toList = b := Except.ok.inj hb
  rw [Clause.verdict_contains, Truth.notIf_false]
  show matching '/' (fun s => "%" ++ s ++ "%") (row c) (.str (escapeWildcards s)) = some b
  rw [htext, matching, like_search, hoccurs]

/-- A text column that fits a pattern. -/
lemma compareOperands_like (hrow : c.type.admits (row c) = true)
    (hd : c.type.admitsConstant .like d = true)
    (accepted : compareOperands .like (.clause (.column c)) (.value d) = .ok out) :
    StandsFor row out (CompareOp.like.holds (.datum ⟨row c, o⟩) (.datum d)) := by
  simp only [ColumnType.admitsConstant, Bool.and_eq_true, beq_iff_eq] at hd
  obtain ⟨⟨htype, hadmits⟩, hpattern⟩ := hd
  rw [htype] at hrow hadmits
  obtain ⟨text, htext⟩ := text_of_admits hrow
  obtain ⟨w, origin⟩ := d
  obtain ⟨s, rfl⟩ := text_of_admits hadmits
  have hdangles : dangles s = false := by simpa [Value.text?] using hpattern
  refine ⟨_, (Except.ok.inj accepted).symm, rfl, fun b hb => ?_⟩
  rw [htext] at hb
  have hfits : Like.fits s text = b := Except.ok.inj hb
  rw [Clause.verdict_like, Truth.notIf_false]
  show matching '\\' id (row c) (.str s) = some b
  rw [htext, matching, id, like_eq_fits hdangles, hfits]

/-- A column tested for null. -/
lemma compareOperands_null (hop : op = .same ∨ op = .notSame) (hrow : c.type.admits (row c) = true)
    (hd : c.type.admitsConstant op d = true)
    (accepted : compareOperands op (.clause (.column c)) (.value d) = .ok out) :
    StandsFor row out (op.holds (.datum ⟨row c, o⟩) (.datum d)) := by
  obtain ⟨w, origin⟩ := d
  have hw : w = .none := by
    obtain rfl | rfl := hop <;> cases w <;> first | rfl | exact absurd hd Bool.false_ne_true
  subst hw
  have hsame := same_none_of_admits (o := o) (q := origin) hrow
  have htruth : ∀ r : Relation, r.nullSafe = true →
      (Clause.comparison r (.column c) .null).verdict row = some (r.holdsOf .lt) := by
    intro r hsafe
    rw [verdict_comparison, Relation.truth, hsafe]
    simp only [Clause.denote, isNone_of_admits hrow]
    rfl
  obtain rfl | rfl := hop
  · refine ⟨_, (Except.ok.inj accepted).symm, rfl, fun b hb => ?_⟩
    rw [htruth .same rfl, ← Except.ok.inj hb]
    exact congrArg some hsame.symm
  · refine ⟨_, (Except.ok.inj accepted).symm, rfl, fun b hb => ?_⟩
    rw [htruth .notSame rfl, ← Except.ok.inj hb]
    exact congrArg (fun b => some !b) hsame.symm

/-- **A column compared with a constant.** -/
theorem compareOperands_column (hrow : c.type.admits (row c) = true)
    (hd : c.type.admitsConstant op d = true) (hone : op = .isIn → unambiguous (row c) d.value = true)
    (accepted : compareOperands op (.clause (.column c)) (.value d) = .ok out) :
    StandsFor row out (op.holds (.datum ⟨row c, o⟩) (.datum d)) := by
  cases op with
  | eq | ne | lt | le | gt | ge => exact compareOperands_relation rfl hrow hd accepted
  | isIn => exact compareOperands_isIn hrow hd (hone rfl) accepted
  | contains => exact compareOperands_contains hrow hd accepted
  | like => exact compareOperands_like hrow hd accepted
  | same => exact compareOperands_null (.inl rfl) hrow hd accepted
  | notSame => exact compareOperands_null (.inr rfl) hrow hd accepted

end Columns

end Criteria.Sql
