import Criteria.Proofs.Expr.Foreign
import Criteria.Proofs.Mongo.Meaning
import Mathlib

/-!
# The language of the filter builder

A filter can be built for a condition exactly if that is in a small language: truth values, fields of the
parameter, comparisons of a field with a constant, and the connectives.  Nothing that a connective leaves
out of the filter is left out of the check.

**Connectives.**
* `Expr.operands` — the conditions that the connectives join.
* `failure_filterOf` — what the first of them is refused with, the whole is refused with.

**Operands.**
* `FieldPath`, `Filterable` — the language; its paths are the accesses that are read as fields
  (`FieldPath.read`, `FieldPath.of_read`).
* `Searchable` — what a field is searched for can be written.
* `Refused` — what an operand is refused with: it is unsupported, unless writing it into the message
  fails.
* `exists_filter_or_refused` — of each operand there is a filter or it is refused.

**`accepts_exactly`** puts the two together.
-/

namespace Criteria.Expr

/-- The conditions that connectives join, truth values included, from left to right. -/
def operands : Expr → List Expr
  | and l r | or l r => l.operands ++ r.operands
  | not e => e.operands
  | e => [e]

def isConnective : Expr → Bool
  | and .. | or .. | not _ => true
  | _ => false

lemma isConnective_of_mem_operands : ∀ {e c : Expr}, c ∈ e.operands → c.isConnective = false
  | and l r, _, h | or l r, _, h => by
      obtain h | h := List.mem_append.mp h
      · exact isConnective_of_mem_operands h
      · exact isConnective_of_mem_operands h
  | not e, _, h => isConnective_of_mem_operands (e := e) h
  | param _, _, h | const _, _, h | member .., _, h | call .., _, h | compare .., _, h
  | cond .., _, h | lambda .., _, h | tagged .., _, h | unknown _, _, h | raw _, _, h => by
      obtain rfl := List.mem_singleton.mp h
      rfl

/-- What connectives pass on to what they join holds of the operands. -/
lemma of_mem_operands {P : Expr → Prop} (hand : ∀ {l r}, P (and l r) → P l ∧ P r)
    (hor : ∀ {l r}, P (or l r) → P l ∧ P r) (hnot : ∀ {e}, P (not e) → P e) :
    ∀ {e c : Expr}, P e → c ∈ e.operands → P c
  | and l r, _, he, h => by
      obtain ⟨hl, hr⟩ := hand he
      obtain h | h := List.mem_append.mp h
      · exact of_mem_operands hand hor hnot hl h
      · exact of_mem_operands hand hor hnot hr h
  | or l r, _, he, h => by
      obtain ⟨hl, hr⟩ := hor he
      obtain h | h := List.mem_append.mp h
      · exact of_mem_operands hand hor hnot hl h
      · exact of_mem_operands hand hor hnot hr h
  | not e, _, he, h => of_mem_operands hand hor hnot (e := e) (hnot he) h
  | param _, _, he, h | const _, _, he, h | member .., _, he, h | call .., _, he, h
  | compare .., _, he, h | cond .., _, he, h | lambda .., _, he, h | tagged .., _, he, h
  | unknown _, _, he, h | raw _, _, he, h => by
      obtain rfl := List.mem_singleton.mp h
      exact he

lemma hasForeign_of_mem_operands {e c : Expr} (plain : e.hasForeign = false) (h : c ∈ e.operands) :
    c.hasForeign = false :=
  of_mem_operands (P := (hasForeign · = false)) Bool.or_eq_false_iff.mp Bool.or_eq_false_iff.mp id
    plain h

/-- A condition can be written if its operands can. -/
lemma textFault?_of_mem_operands {e c : Expr} (written : e.textFault? = none) (h : c ∈ e.operands) :
    c.textFault? = none :=
  of_mem_operands (P := (textFault? · = none)) Option.or_eq_none_iff.mp Option.or_eq_none_iff.mp id
    written h

lemma operands_of_mem {e c : Expr} (h : c ∈ e.operands) : c.operands = [c] := by
  have hc := isConnective_of_mem_operands h
  cases c with
  | and | or | not => cases hc
  | _ => rfl

end Criteria.Expr

namespace Criteria.Mongo

open Criteria.Expr

/-! ## The language -/

/-- Fields of the parameter, and fields of those. -/
inductive FieldPath (p : Param) : Expr → Prop where
  | own (name : String) : FieldPath p (.member (.param p) name)
  | nested {target : Expr} (name : String) : FieldPath p target → FieldPath p (.member target name)

/-- The conditions that the filter builder accepts. -/
inductive Filterable (p : Param) : Expr → Prop where
  | truth (b : Bool) (origin : Origin) : Filterable p (.const ⟨.bool b, origin⟩)
  | field {e : Expr} : FieldPath p e → Filterable p e
  | compare (op : CompareOp) {e : Expr} (d : Datum) :
      FieldPath p e → Filterable p (.compare op e (.const d))
  | and {l r : Expr} : Filterable p l → Filterable p r → Filterable p (.and l r)
  | or {l r : Expr} : Filterable p l → Filterable p r → Filterable p (.or l r)
  | not {e : Expr} : Filterable p e → Filterable p (.not e)

/-- The constants that are to contain a field, as far as the connectives reach, can be iterated over. -/
def Iterable (e : Expr) : Prop :=
  ∀ l d, .compare .isIn l (.const d) ∈ e.operands → ∃ items, d.iterate = .ok items

/-- The constants that a field is searched for or matched with, as far as the connectives reach, can be
written: no integer in them has too many digits. -/
def Searchable (e : Expr) : Prop :=
  ∀ l d, .compare .contains l (.const d) ∈ e.operands ∨ .compare .like l (.const d) ∈ e.operands →
    d.value.isWritable = true

/-- The node that the refusal of an operand shows.  Of a comparison of an access with a constant, as of
an access, that is where the path of the access starts. -/
def refusedNode : Expr → Expr
  | .member target _ => target.pathStart
  | .compare op l r =>
    if isAccess l && r.asConstant?.isSome then l.pathStart else .compare op l r
  | e => e

/-- What an operand is refused with.  Outside the language it is unsupported; if the node to be shown
cannot be written, that is raised instead.  In the language it is refused if what the field is searched
for cannot be written. -/
inductive Refused (p : Param) (c : Expr) : Error → Prop where
  | unsupported (u : Unsupported) : ¬ Filterable p c → (refusedNode c).textFault? = none →
      Refused p c (.unsupported u)
  | unwritable {f : Fault} : ¬ Filterable p c → (refusedNode c).textFault? = some f →
      Refused p c (.fault f)
  | unsearchable : Filterable p c → ¬ Searchable c → Refused p c (.fault .unwritableInteger)

variable {p : Param} {flags : String} {options : Options} {binder : Expr}

lemma Refused.not_accepted {c : Expr} {err : Error} (h : Refused p c err) :
    ¬ (Filterable p c ∧ Searchable c) := by
  cases h with
  | unsupported _ hnot | unwritable hnot => exact fun h => hnot h.1
  | unsearchable _ hnot => exact fun h => hnot h.2

/-- A complaint about the node to be shown refuses what is not in the language. -/
lemma refused_ofUnsupported {c : Expr} {u : Unsupported} (hnot : ¬ Filterable p c)
    (hnode : u.fault? = (refusedNode c).textFault?) : Refused p c (.ofUnsupported u) := by
  cases hwriting : (refusedNode c).textFault? with
  | none =>
      rw [Error.ofUnsupported_of_written (hnode.trans hwriting)]
      exact .unsupported u hnot hwriting
  | some f =>
      rw [Error.ofUnsupported_of_fault (hnode.trans hwriting)]
      exact .unwritable hnot hwriting

/-! ## Connectives -/

/-- **A condition is refused with what the first refused operand of its connectives is refused with.** -/
theorem failure_filterOf : ∀ e : Expr, failure (filterOf options binder e) =
    e.operands.findSome? fun c => failure (filterOf options binder c)
  | .and l r | .or l r => by
      rw [filterOf, failure_two, failure_filterOf l, failure_filterOf r, operands,
        List.findSome?_append]
  | .not e => by
      rw [filterOf, failure_one, failure_filterOf e, operands]
  | .param _ | .const _ | .member .. | .call .. | .compare .. | .cond .. | .lambda .. | .tagged ..
  | .unknown _ | .raw _ => List.findSome?_singleton.symm

/-- So it has a filter if all of them have one. -/
lemma exists_filterOf_iff {e : Expr} : (∃ f, filterOf options binder e = .ok f) ↔
    ∀ c ∈ e.operands, ∃ f, filterOf options binder c = .ok f := by
  simp only [← failure_eq_none_iff]
  rw [failure_filterOf, List.findSome?_eq_none_iff]

/-- The language is that of the operands, closed under connectives. -/
lemma filterable_iff : ∀ {e : Expr}, Filterable p e ↔ ∀ c ∈ e.operands, Filterable p c
  | .and l r => by
      rw [operands, List.forall_mem_append, ← filterable_iff, ← filterable_iff]
      refine ⟨fun h => ?_, fun ⟨hl, hr⟩ => .and hl hr⟩
      cases h with
      | field hpath => cases hpath
      | and hl hr => exact ⟨hl, hr⟩
  | .or l r => by
      rw [operands, List.forall_mem_append, ← filterable_iff, ← filterable_iff]
      refine ⟨fun h => ?_, fun ⟨hl, hr⟩ => .or hl hr⟩
      cases h with
      | field hpath => cases hpath
      | or hl hr => exact ⟨hl, hr⟩
  | .not e => by
      rw [operands, ← filterable_iff]
      refine ⟨fun h => ?_, .not⟩
      cases h with
      | field hpath => cases hpath
      | not h => exact h
  | .param _ | .const _ | .member .. | .call .. | .compare .. | .cond .. | .lambda .. | .tagged ..
  | .unknown _ | .raw _ => List.forall_mem_singleton.symm

/-- What holds of the comparisons among the operands holds of those of each operand. -/
lemma Iterable.operand {e c : Expr} (h : Iterable e) (hc : c ∈ e.operands) : Iterable c := by
  intro l d hmem
  rw [operands_of_mem hc, List.mem_singleton] at hmem
  exact h l d (hmem ▸ hc)

lemma searchable_iff {e : Expr} : Searchable e ↔ ∀ c ∈ e.operands, Searchable c := by
  constructor
  · intro h c hc l d hmem
    rw [operands_of_mem hc] at hmem
    obtain hmem | hmem := hmem
    · exact h l d (.inl (List.mem_singleton.mp hmem ▸ hc))
    · exact h l d (.inr (List.mem_singleton.mp hmem ▸ hc))
  · rintro h l d (hmem | hmem)
    · exact h _ hmem l d (.inl (List.mem_singleton_self _))
    · exact h _ hmem l d (.inr (List.mem_singleton_self _))

/-! ## Paths -/

/-- A path without accesses is where it starts. -/
lemma pathStart_of_not_isAccess : ∀ {e : Expr}, isAccess e = false → e.pathStart = e
  | .member .., h | .tagged .., h => nomatch h
  | .param _, _ | .const _, _ | .call .., _ | .compare .., _ | .and .., _ | .or .., _ | .not _, _
  | .cond .., _ | .lambda .., _ | .unknown _, _ | .raw _, _ => rfl

/-- A path can be written if its start can. -/
lemma textFault?_pathStart : ∀ e : Expr, e.pathStart.textFault? = e.textFault?
  | .member target _ | .tagged target _ _ => textFault?_pathStart target
  | .param _ | .const _ | .call .. | .compare .. | .and .. | .or .. | .not _ | .cond .. | .lambda ..
  | .unknown _ | .raw _ => rfl

/-- A path of the language is an access that starts at the parameter. -/
lemma FieldPath.start {e : Expr} (h : FieldPath p e) : isAccess e = true ∧ e.pathStart = .param p := by
  induction h with
  | own => exact ⟨rfl, rfl⟩
  | nested name _ ih => exact ⟨rfl, ih.2⟩

/-- Of plain nodes, an access that starts at the parameter is a path of the language. -/
lemma FieldPath.of_start : ∀ {e : Expr}, e.hasForeign = false → isAccess e = true →
    e.pathStart = .param p → FieldPath p e
  | .member target name, plain, _, hstart => by
      have hstart : target.pathStart = .param p := hstart
      cases haccess : isAccess target with
      | true => exact .nested name (of_start (e := target) plain haccess hstart)
      | false =>
          rw [← pathStart_of_not_isAccess haccess, hstart]
          exact .own name
  | .tagged .., plain, _, _ => by cases plain
  | .param _, _, h, _ | .const _, _, h, _ | .call .., _, h, _ | .compare .., _, h, _
  | .and .., _, h, _ | .or .., _, h, _ | .not _, _, h, _ | .cond .., _, h, _ | .lambda .., _, h, _
  | .unknown _, _, h, _ | .raw _, _, h, _ => nomatch h

/-- The paths of the language are read. -/
lemma FieldPath.read {e : Expr} (h : FieldPath p e) : ∃ path, fieldPath (.param p) e = .ok path :=
  ⟨_, fieldPath_eq_ok_iff.mpr ⟨sameObject_param_iff.mpr h.start.2, rfl⟩⟩

/-- Of plain accesses, nothing else is read. -/
lemma FieldPath.of_read {e : Expr} (plain : e.hasForeign = false) (access : isAccess e = true)
    {path : String} (h : fieldPath (.param p) e = .ok path) : FieldPath p e :=
  of_start plain access (sameObject_param_iff.mp (fieldPath_eq_ok_iff.mp h).1)

/-- What is not read is refused for where it starts. -/
lemma eq_of_fieldPath_eq_error {e : Expr} {err : Error} (h : fieldPath binder e = .error err) :
    err = .ofUnsupported (.strayPath e.pathStart) := by
  simp only [fieldPath] at h
  split_ifs at h
  exact (Except.error.inj h).symm

/-! ## Comparisons -/

/-- Flags that are a text can be given the one for line breaks. -/
lemma exists_withLineBreaks (flags : String) : ∃ v, (Options.withLineBreaks ⟨.str flags⟩) = .ok v := by
  have hcontains : ∃ b, Datum.contains ⟨.str flags, ⟨0, []⟩⟩ ⟨.str "s", ⟨0, []⟩⟩ = .ok b := ⟨_, rfl⟩
  obtain ⟨b, hb⟩ := hcontains
  rw [Options.withLineBreaks, hb]
  cases b
  · exact ⟨_, rfl⟩
  · exact ⟨_, rfl⟩

/-- Every comparison has a test, if what is to contain the field can be iterated over and what the field
is searched for can be written. -/
lemma exists_fieldTest (flags : String) {op : CompareOp} {l : Expr} {d : Datum}
    (iterable : Iterable (.compare op l (.const d)))
    (searchable : Searchable (.compare op l (.const d))) :
    ∃ test, fieldTest ⟨.str flags⟩ op d = .ok test := by
  cases op with
  | isIn =>
      obtain ⟨items, hitems⟩ := iterable l d (List.mem_singleton_self _)
      exact ⟨_, bind_eq_ok.mpr ⟨items, hitems, rfl⟩⟩
  | contains =>
      have hwritten : d.value.written = .ok d.value.text :=
        if_pos (searchable l d (.inl (List.mem_singleton_self _)))
      exact ⟨_, bind_eq_ok.mpr ⟨_, hwritten, rfl⟩⟩
  | like =>
      have hwritten : d.value.written = .ok d.value.text :=
        if_pos (searchable l d (.inr (List.mem_singleton_self _)))
      obtain ⟨v, hv⟩ := exists_withLineBreaks flags
      exact ⟨_, bind_eq_ok.mpr ⟨_, hwritten, bind_eq_ok.mpr ⟨v, hv, rfl⟩⟩⟩
  | _ => exact ⟨_, rfl⟩

/-- If that cannot be written, there is no test. -/
lemma fieldTest_of_not_searchable {op : CompareOp} {l : Expr} {d : Datum}
    (h : ¬ Searchable (.compare op l (.const d))) :
    fieldTest options op d = .error .unwritableInteger := by
  simp only [Searchable, operands, List.mem_singleton] at h
  push Not at h
  obtain ⟨_, _, hop, hd⟩ := h
  have hunwritten : d.value.written = .error .unwritableInteger := by
    obtain ⟨⟨⟩⟩ | ⟨⟨⟩⟩ := hop
    all_goals exact if_neg hd
  obtain ⟨⟨⟩⟩ | ⟨⟨⟩⟩ := hop
  all_goals rw [fieldTest, hunwritten]; rfl

/-! ## Operands -/

/-- A comparison has a filter or is refused. -/
lemma exists_comparison_or_refused {op : CompareOp} {l r : Expr}
    (plain : (Expr.compare op l r).hasForeign = false) (iterable : Iterable (.compare op l r)) :
    ((Filterable p (.compare op l r) ∧ Searchable (.compare op l r)) ∧
      ∃ f, comparison ⟨.str flags⟩ (.param p) op l r = .ok f) ∨
    ∃ err, Refused p (.compare op l r) err ∧
      comparison ⟨.str flags⟩ (.param p) op l r = .error err := by
  obtain ⟨hl, hr⟩ := Bool.or_eq_false_iff.mp plain
  rw [comparison.eq_def]
  split
  next d haccess hconstant =>
    obtain rfl : r = .const d := by
      cases r with
      | const => rw [Option.some.inj hconstant]
      | unknown => cases hr
      | _ => cases hconstant
    cases hpath : fieldPath (.param p) l with
    | error err =>
        have hnot : ¬ Filterable p (.compare op l (.const d)) := by
          rintro (_ | _ | ⟨-, -, h⟩)
          · contradiction
          · obtain ⟨path, hread⟩ := h.read
            cases hread.symm.trans hpath
        refine .inr ⟨err, ?_, rfl⟩
        rw [eq_of_fieldPath_eq_error hpath]
        refine refused_ofUnsupported hnot ?_
        rw [refusedNode, haccess]
        rfl
    | ok path =>
        have hfilterable : Filterable p (.compare op l (.const d)) :=
          .compare op d (.of_read hl haccess hpath)
        by_cases searchable : Searchable (.compare op l (.const d))
        · obtain ⟨test, htest⟩ := exists_fieldTest flags iterable searchable
          refine .inl ⟨⟨hfilterable, searchable⟩, .field path test, ?_⟩
          rw [htest]
          rfl
        · refine .inr ⟨_, .unsearchable hfilterable searchable, ?_⟩
          rw [fieldTest_of_not_searchable searchable]
          rfl
  next hnone =>
    have hnot : ¬ Filterable p (.compare op l r) := by
      rintro (_ | ⟨⟨⟩⟩ | ⟨-, d, h⟩)
      exact hnone d h.start.1 rfl
    refine .inr ⟨_, refused_ofUnsupported hnot ?_, rfl⟩
    have hshown : (isAccess l && r.asConstant?.isSome) = false := by
      rw [Bool.and_eq_false_imp]
      intro haccess
      cases hconstant : r.asConstant? with
      | none => rfl
      | some d => exact absurd hconstant (hnone d haccess)
    rw [refusedNode, hshown]
    rfl

/-- **Of an operand there is a filter or it is refused.** -/
theorem exists_filter_or_refused (p : Param) (flags : String) {c : Expr}
    (operand : c.isConnective = false) (plain : c.hasForeign = false) (iterable : Iterable c) :
    ((Filterable p c ∧ Searchable c) ∧ ∃ f, filterOf ⟨.str flags⟩ (.param p) c = .ok f) ∨
      ∃ err, Refused p c err ∧ filterOf ⟨.str flags⟩ (.param p) c = .error err := by
  cases c with
  | const d =>
      have searchable : Searchable (.const d) := by simp [Searchable, operands]
      obtain ⟨v, origin⟩ := d
      rw [filterOf]
      split
      next hv =>
        obtain rfl : v = .bool true := hv
        exact .inl ⟨⟨.truth true origin, searchable⟩, _, rfl⟩
      next hv =>
        obtain rfl : v = .bool false := hv
        exact .inl ⟨⟨.truth false origin, searchable⟩, _, rfl⟩
      next htrue hfalse =>
        refine .inr ⟨_, refused_ofUnsupported ?_ rfl, rfl⟩
        rintro (⟨_ | _⟩ | ⟨⟨⟩⟩)
        · exact hfalse rfl
        · exact htrue rfl
  | member target name =>
      have searchable : Searchable (.member target name) := by simp [Searchable, operands]
      rw [filterOf]
      cases hpath : fieldPath (.param p) (.member target name) with
      | ok path => exact .inl ⟨⟨.field (.of_read plain rfl hpath), searchable⟩, _, rfl⟩
      | error err =>
          refine .inr ⟨err, ?_, rfl⟩
          rw [eq_of_fieldPath_eq_error hpath]
          refine refused_ofUnsupported ?_ rfl
          rintro (_ | h)
          obtain ⟨path, hread⟩ := h.read
          cases hread.symm.trans hpath
  | compare op l r => exact exists_comparison_or_refused plain iterable
  | param | call | cond | lambda =>
      refine .inr ⟨_, refused_ofUnsupported ?_ rfl, rfl⟩
      rintro (_ | ⟨⟨⟩⟩)
  | and | or | not => cases operand
  | tagged | unknown | raw => cases plain

/-! ## What can be written -/

/-- With an operand, the node that its refusal shows can be written. -/
lemma textFault?_refusedNode {c : Expr} (written : c.textFault? = none) :
    (refusedNode c).textFault? = none := by
  cases c with
  | member target _ => exact (textFault?_pathStart target).trans written
  | compare op l r =>
      rw [refusedNode]
      split_ifs
      · exact (textFault?_pathStart l).trans (Option.or_eq_none_iff.mp written).1
      · exact written
  | _ => exact written

/-- In a condition that can be written, so can what its fields are searched for. -/
lemma searchable_of_written {e : Expr} (written : e.textFault? = none) : Searchable e := by
  have hconstant : ∀ {op l d}, .compare op l (.const d) ∈ e.operands → d.value.isWritable = true := by
    intro op l d hmem
    have hcompare := textFault?_of_mem_operands written hmem
    have hd : d.value.fault? = none := (Option.or_eq_none_iff.mp hcompare).2
    rw [Value.fault?] at hd
    split_ifs at hd with hwritable
    exact hwritable
  rintro l d (hmem | hmem)
  · exact hconstant hmem
  · exact hconstant hmem

/-- What can be written is refused as unsupported. -/
lemma Refused.unsupported_of_written {c : Expr} {err : Error} (h : Refused p c err)
    (written : c.textFault? = none) : ∃ u, err = .unsupported u := by
  cases h with
  | unsupported u => exact ⟨u, rfl⟩
  | unwritable _ hwriting => cases (textFault?_refusedNode written).symm.trans hwriting
  | unsearchable _ hnot => exact absurd (searchable_of_written written) hnot

/-! ## Conditions -/

section Conditions

variable {e : Expr} (plain : e.hasForeign = false) (iterable : Iterable e)
include plain iterable

/-- An operand of a condition has a filter if it is in the language. -/
lemma exists_operand_iff {c : Expr} (hc : c ∈ e.operands) :
    (∃ f, filterOf ⟨.str flags⟩ (.param p) c = .ok f) ↔ Filterable p c ∧ Searchable c := by
  have hoperand := exists_filter_or_refused p flags (isConnective_of_mem_operands hc)
    (hasForeign_of_mem_operands plain hc) (iterable.operand hc)
  obtain ⟨haccepted, hfilter⟩ | ⟨err, hrefused, herr⟩ := hoperand
  · exact iff_of_true hfilter haccepted
  · refine iff_of_false ?_ hrefused.not_accepted
    rintro ⟨f, hf⟩
    cases hf.symm.trans herr

/-- **A condition has a filter if it is in the language.** -/
theorem exists_filter_iff :
    (∃ f, filterOf ⟨.str flags⟩ (.param p) e = .ok f) ↔ Filterable p e ∧ Searchable e := by
  rw [exists_filterOf_iff, filterable_iff, searchable_iff, ← forall₂_and]
  exact forall₂_congr fun c hc => exists_operand_iff plain iterable hc

/-- **The first operand that is not in the language is refused.** -/
theorem refused_of_filterOf {err : Error} (h : filterOf ⟨.str flags⟩ (.param p) e = .error err) :
    ∃ before c after, e.operands = before ++ c :: after ∧
      (∀ b ∈ before, Filterable p b ∧ Searchable b) ∧ Refused p c err := by
  have hfirst := (failure_filterOf e).symm.trans (failure_eq_some_iff.mpr h)
  obtain ⟨before, c, after, hoperands, hc, hbefore⟩ := List.findSome?_eq_some_iff.mp hfirst
  have hmem : c ∈ e.operands := by simp [hoperands]
  refine ⟨before, c, after, hoperands, fun b hb => ?_, ?_⟩
  · refine (exists_operand_iff plain iterable ?_).mp (failure_eq_none_iff.mp (hbefore b hb))
    rw [hoperands]
    exact List.mem_append_left _ hb
  · obtain ⟨-, f, hf⟩ | ⟨err', hrefused, herr⟩ :=
      exists_filter_or_refused p flags (isConnective_of_mem_operands hmem)
        (hasForeign_of_mem_operands plain hmem) (iterable.operand hmem)
    · rw [hf] at hc
      cases hc
    · cases herr.symm.trans (failure_eq_some_iff.mp hc)
      exact hrefused

end Conditions

/-- **The filter builder accepts exactly its language.**  Let a condition hold no foreign node and no
constant that is to contain a field and cannot be iterated over.  With flags that are a text it has a
filter if and only if it is in the language and what its fields are searched for can be written.  If not,
then the first operand of its connectives for which that fails is refused, even where an operand that
selects everything makes it irrelevant.  In particular a condition that can be written is accepted if it
is in the language, and else refused as unsupported. -/
theorem accepts_exactly {body : Expr} (plain : body.hasForeign = false) (iterable : Iterable body)
    (p : Param) (flags : String) :
    ((∃ f, Filter.ofLambda ⟨.str flags⟩ ⟨.param p, body⟩ = .ok f) ↔
      Filterable p body ∧ Searchable body) ∧
    (¬ (Filterable p body ∧ Searchable body) →
      ∃ before c after err, body.operands = before ++ c :: after ∧
        (∀ b ∈ before, Filterable p b ∧ Searchable b) ∧ Refused p c err ∧
        Filter.ofLambda ⟨.str flags⟩ ⟨.param p, body⟩ = .error err) ∧
    (body.textFault? = none → Searchable body ∧ (¬ Filterable p body →
      ∃ u, Filter.ofLambda ⟨.str flags⟩ ⟨.param p, body⟩ = .error (.unsupported u))) := by
  have hiff : (∃ f, filterOf ⟨.str flags⟩ (.param p) body = .ok f) ↔
      Filterable p body ∧ Searchable body := exists_filter_iff plain iterable
  have hrefused : ¬ (Filterable p body ∧ Searchable body) →
      ∃ before c after err, body.operands = before ++ c :: after ∧
        (∀ b ∈ before, Filterable p b ∧ Searchable b) ∧ Refused p c err ∧
        filterOf ⟨.str flags⟩ (.param p) body = .error err := by
    intro hnot
    obtain ⟨err, herr⟩ := exists_error_of_not_ok fun f h => hnot (hiff.mp ⟨f, h⟩)
    obtain ⟨before, c, after, hoperands, hbefore, hc⟩ := refused_of_filterOf plain iterable herr
    exact ⟨before, c, after, err, hoperands, hbefore, hc, herr⟩
  refine ⟨hiff, hrefused, fun written => ⟨searchable_of_written written, fun hnot => ?_⟩⟩
  obtain ⟨before, c, after, err, hoperands, -, hc, herr⟩ := hrefused fun h => hnot h.1
  obtain ⟨u, rfl⟩ := hc.unsupported_of_written (textFault?_of_mem_operands written (by simp [hoperands]))
  exact ⟨u, herr⟩

/-- A condition on the role of the group of `p`, next to one that always holds. -/
def grouped (p : Param) : Expr :=
  .or (.const ⟨.bool true, ⟨0, []⟩⟩)
    (.compare .isIn (.member (.member (.param p) "group") "role")
      (.const ⟨.list [.str "admin", .str "owner"], ⟨3, []⟩⟩))

/-- The group must be that of the lambda's own parameter: one with the same name will not do, although
the condition always holds. -/
theorem accepts_exactly_grouped :
    (grouped ⟨1, "p"⟩).hasForeign = false ∧ Iterable (grouped ⟨1, "p"⟩) ∧
      (∃ f, Filter.ofLambda ⟨.str "i"⟩ ⟨.param ⟨1, "p"⟩, grouped ⟨1, "p"⟩⟩ = .ok f) ∧
      ∃ u, Filter.ofLambda ⟨.str "i"⟩ ⟨.param ⟨2, "p"⟩, grouped ⟨1, "p"⟩⟩ =
        .error (.unsupported u) := by
  have plain : (grouped ⟨1, "p"⟩).hasForeign = false := rfl
  have iterable : Iterable (grouped ⟨1, "p"⟩) := by
    intro l d h
    simp only [grouped, Expr.operands, List.mem_append, List.mem_singleton] at h
    obtain ⟨⟨⟩⟩ | ⟨⟨⟩⟩ := h
    exact ⟨_, rfl⟩
  obtain ⟨haccepts, -, -⟩ := accepts_exactly plain iterable ⟨1, "p"⟩ "i"
  obtain ⟨-, -, hwritten⟩ := accepts_exactly plain iterable ⟨2, "p"⟩ "i"
  obtain ⟨searchable, hrefuses⟩ := hwritten rfl
  have hgroup : FieldPath ⟨1, "p"⟩ (.member (.member (.param ⟨1, "p"⟩) "group") "role") :=
    .nested "role" (.own "group")
  have hin : Filterable ⟨1, "p"⟩ (grouped ⟨1, "p"⟩) := .or (.truth true _) (.compare .isIn _ hgroup)
  have hout : ¬ Filterable ⟨2, "p"⟩ (grouped ⟨1, "p"⟩) := fun h => by
    cases h with
    | field hpath => cases hpath
    | or _ h =>
        cases h with
        | field hpath => cases hpath
        | compare _ _ hrole =>
            have hstart : Expr.param ⟨1, "p"⟩ = .param ⟨2, "p"⟩ := hrole.start.2
            simp at hstart
  exact ⟨plain, iterable, haccepts.mpr ⟨hin, searchable⟩, hrefuses hout⟩

/-- Whether the name of `p` matches the text of a constant. -/
def matching (p : Param) (d : Datum) : Expr := .compare .like (.member (.param p) "name") (.const d)

/-- The length of a constant. -/
def lengthOf (d : Datum) : Expr :=
  .call (.function ⟨"len", "len", "<built-in function len>"⟩) [.const d] none

/-- What cannot be written is a fault of its own: a number with one digit too many in the language, and
outside of it, where the refusal shows the number, or a parameter whose name is no text.  So are flags
that are no text. -/
theorem ofLambda_faults :
    (Filterable ⟨1, "p"⟩ (matching ⟨1, "p"⟩ ⟨.int (10 ^ 4300), ⟨2, []⟩⟩) ∧
      Filter.ofLambda .default ⟨.param ⟨1, "p"⟩, matching ⟨1, "p"⟩ ⟨.int (10 ^ 4300), ⟨2, []⟩⟩⟩ =
        .error (.fault .unwritableInteger)) ∧
    (¬ Filterable ⟨1, "p"⟩ (lengthOf ⟨.int (10 ^ 4300), ⟨2, []⟩⟩) ∧
      Filter.ofLambda .default ⟨.param ⟨1, "p"⟩, lengthOf ⟨.int (10 ^ 4300), ⟨2, []⟩⟩⟩ =
        .error (.fault .unwritableInteger)) ∧
    (¬ Filterable ⟨1, .other "int" "5"⟩ (.param ⟨1, .other "int" "5"⟩) ∧
      Filter.ofLambda .default ⟨.param ⟨1, .other "int" "5"⟩, .param ⟨1, .other "int" "5"⟩⟩ =
        .error (.fault (.unwritableName "int"))) ∧
    (Filterable ⟨1, "p"⟩ (matching ⟨1, "p"⟩ ⟨.str "li_", ⟨2, []⟩⟩) ∧
      Filter.ofLambda ⟨.int 5⟩ ⟨.param ⟨1, "p"⟩, matching ⟨1, "p"⟩ ⟨.str "li_", ⟨2, []⟩⟩⟩ =
        .error (.fault (.notContainer "int"))) := by
  have hlong : (Value.int (10 ^ 4300)).isWritable = false := by decide +kernel
  have hmatching : ∀ d : Datum, d.value.isWritable = false →
      Filter.ofLambda .default ⟨.param ⟨1, "p"⟩, matching ⟨1, "p"⟩ d⟩ =
        .error (.fault .unwritableInteger) := by
    intro d hd
    have htest : fieldTest .default .like d = .error .unwritableInteger := by
      simp [fieldTest, Value.written, hd, bind, Except.bind]
    show comparison .default (.param ⟨1, "p"⟩) .like (.member (.param ⟨1, "p"⟩) "name") (.const d) = _
    simp only [comparison.eq_def, isAccess, asConstant?, htest]
    rfl
  have hlength : ∀ d : Datum, d.value.isWritable = false →
      Filter.ofLambda .default ⟨.param ⟨1, "p"⟩, lengthOf d⟩ = .error (.fault .unwritableInteger) := by
    intro d hd
    have hfault : (lengthOf d).textFault? = some .unwritableInteger := by
      simp [lengthOf, textFault?, textsFault?, Value.fault?, Callee.shownFault?, hd]
    exact congrArg Except.error (Error.ofUnsupported_of_fault hfault)
  refine ⟨⟨.compare .like _ (.own "name"), hmatching _ hlong⟩, ⟨?_, hlength _ hlong⟩, ⟨?_, rfl⟩,
    .compare .like _ (.own "name"), rfl⟩
  · rintro (_ | ⟨⟨⟩⟩)
  · rintro (_ | ⟨⟨⟩⟩)

end Criteria.Mongo
