import Criteria.Proofs.Mongo.Pattern
import Criteria.Proofs.Spec.Bracketing
import Criteria.Spec.Example

/-!
# What an example asks for

A condition made from named values is a conjunction of equalities, joined from the left onto the
neutral element.  It says what a walk through the fields says.

* `Item.matches` — the walk: field after field is read and compared, up to the first that differs or
  cannot be read.
* `leaves`, **`equalities_run`**, **`equalities_badName`** — what the construction makes of fields, and
  the first name that is none.
* `decide_conjunction` — by induction on the fields, the conjunction decides as the walk does.
* `Conjunction`, `Conjoins` — all that is said of the result.
* **`conjoins_example`** — it holds of mappings, of examples and of values given by name.
-/

namespace Criteria

/-- Whether the fields of the entity equal the values, one after the other up to the first that does
not. -/
def Item.matches (props : EvaluationProperties) (entity : Item) :
    List (String × Datum) → Except Fault Bool
  | [] => .ok true
  | (name, d) :: fields => do
    let i ← entity.follow props name
    if i.eq (.datum d) then entity.matches props fields else return false

namespace Spec

/-! ## Construction -/

/-- The leaf for a field, over parameter number `n`. -/
def leaf (n : Nat) (field : String × Datum) : Spec :=
  tree ⟨.param ⟨n, Param.defaultName⟩,
    Mongo.comparing .eq ⟨n, Param.defaultName⟩ field.1 field.2⟩

/-- The leaves for fields, each over a parameter of its own. -/
def leaves (n : Nat) : List (String × Datum) → List Spec
  | [] => []
  | field :: fields => leaf n field :: leaves (n + 1) fields

/-- Named values as they are given. -/
def named (field : String × Datum) : Value × Datum := (.str field.1, field.2)

section Construction

variable {fields : List (String × Datum)} {k : Value} {v : Datum} {n : Nat}

lemma compareField_leaf (field : String × Datum) (h : field.1 ≠ "") (n : Nat) :
    (compareField .eq (named field).1 (named field).2).run n = .ok (leaf n field, n + 1) :=
  onField_run h _ n

/-- The leaves are made in order. -/
lemma mapM_leaves (h : ∀ f ∈ fields, f.1 ≠ "") (n : Nat) :
    ((fields.map named).mapM fun p => compareField .eq p.1 p.2).run n =
      .ok (leaves n fields, n + fields.length) := by
  induction fields generalizing n with
  | nil => rfl
  | cons field fields ih =>
      obtain ⟨hfield, hfields⟩ := List.forall_mem_cons.mp h
      rw [List.map_cons, List.mapM_cons, Build.run_bind_ok (compareField_leaf field hfield n),
        Build.run_bind_ok (ih hfields (n + 1)), List.length_cons]
      show Except.ok (leaves n (field :: fields), n + 1 + fields.length) = _
      rw [Nat.add_assoc, Nat.add_comm 1]

/-- **The condition for fields** is the conjunction of their leaves. -/
theorem equalities_run (h : ∀ f ∈ fields, f.1 ≠ "") (n : Nat) :
    (equalities (fields.map named)).run n =
      .ok (conjunction (leaves n fields), n + fields.length) := by
  rw [equalities, Build.run_bind_ok (mapM_leaves h n)]
  rfl

lemma fieldName_eq_error (h : ∀ s, k = .str s → s = "") : fieldName k = .error (badName k) := by
  cases k with
  | str s =>
      obtain rfl := h s rfl
      rfl
  | _ => rfl

/-- **The first name that is none is refused.** -/
theorem equalities_badName {before : List (String × Datum)} (h : ∀ f ∈ before, f.1 ≠ "")
    (hk : ∀ s, k = .str s → s = "") (after : List (Value × Datum)) (n : Nat) :
    (equalities (before.map named ++ (k, v) :: after)).run n = .error (badName k) := by
  have hbad : ∀ n, (compareField .eq k v).run n = .error (badName k) := by
    intro n
    rw [compareField, onField, fieldName_eq_error hk]
    rfl
  have hall : ((before.map named ++ (k, v) :: after).mapM fun p => compareField .eq p.1 p.2).run n =
      .error (badName k) := by
    rw [List.mapM_append, Build.run_bind_ok (mapM_leaves h n), StateT.run_bind, List.mapM_cons,
      StateT.run_bind, hbad]
    rfl
  rw [equalities, StateT.run_bind, hall]
  rfl

end Construction

/-! ## Meaning -/

section Meaning

variable {fields : List (String × Datum)} {props : EvaluationProperties} {host : Host} {entity : Item}

/-- A conjunction from the left groups the same leaves as one from the right. -/
lemma conjunction_regrouped (ss : List Spec) : (conjunction ss).Regrouped (chain .and ss) := by
  have onto : ∀ (ss : List Spec) (s : Spec),
      (ss.foldl (join .and) s).Regrouped (join .and s (chain .and ss)) := by
    intro ss
    induction ss with
    | nil =>
        intro s
        show s.Regrouped (join .and s everything)
        rw [join_everything]
        exact .refl s
    | cons t ts ih => exact fun s => (ih (join .and s t)).trans (join_assoc rfl s t _)
  exact onto ss everything

lemma conjunction_eq_everything_iff (n : Nat) :
    conjunction (leaves n fields) = everything ↔ fields = [] := by
  rw [(conjunction_regrouped _).everything, chain_eq_everything_iff]
  cases fields with
  | nil => exact ⟨fun _ => rfl, fun _ => rfl⟩
  | cons field fields => exact ⟨nofun, nofun⟩

/-- More than one leaf is a combination. -/
lemma conjunction_eq_tree_iff (n : Nat) :
    (∃ l, conjunction (leaves n fields) = tree l) ↔ ∃ field, fields = [field] := by
  have combined : ∀ (n : Nat) (fields : List (String × Datum)) (c : Combination) (s t : Spec),
      ∃ c' s' t', (leaves n fields).foldl (join .and) (combine c s t) = combine c' s' t' := by
    intro n fields
    induction fields generalizing n with
    | nil => exact fun c s t => ⟨c, s, t, rfl⟩
    | cons field fields ih => exact fun c s t => ih (n + 1) .and (combine c s t) (leaf n field)
  match fields with
  | [] => exact ⟨nofun, nofun⟩
  | [field] => exact ⟨fun _ => ⟨field, rfl⟩, fun _ => ⟨_, rfl⟩⟩
  | first :: second :: rest =>
      refine ⟨?_, nofun⟩
      rintro ⟨l, hl⟩
      obtain ⟨c', s', t', hcombined⟩ := combined (n + 2) rest .and (leaf n first) (leaf (n + 1) second)
      rw [show conjunction (leaves n (first :: second :: rest)) = combine c' s' t' from hcombined] at hl
      cases hl

/-- A leaf decides by reading the field and comparing it. -/
lemma decide_leaf (n : Nat) (field : String × Datum) (w : World) :
    ((leaf n field).decide props host entity).run w =
      ((do
        let i ← entity.follow props field.1
        return i.eq (.datum field.2)), w) := by
  show ((do return (← Compiled.call ⟨props, _, _⟩ host entity).truthy : Run Bool)).run w = _
  rw [Run.run_bind, Compiled.call_comparing]
  cases entity.follow props field.1 <;> rfl

/-- A conjunction decides in turn, also if an operand is the neutral element. -/
lemma decide_join (l r : Spec) :
    (join .and l r).decide props host entity =
      Combination.and.decide (l.decide props host entity) (r.decide props host entity) := by
  by_cases hl : l = everything
  · subst hl
    rfl
  by_cases hr : r = everything
  · subst hr
    have hneutral : ∀ m : Run Bool, Combination.and.decide m (pure true) = m := by
      intro m
      refine (bind_congr fun b => ?_).trans (bind_pure m)
      cases b <;> rfl
    rw [join_everything]
    exact (hneutral _).symm
  rw [join_of_ne hl hr]
  rfl

/-- **The conjunction decides as the walk through the fields does**, by induction on the fields. -/
theorem decide_conjunction (n : Nat) (w : World) :
    ((conjunction (leaves n fields)).decide props host entity).run w =
      (entity.matches props fields, w) := by
  rw [(conjunction_regrouped _).decide]
  induction fields generalizing n with
  | nil => rfl
  | cons field fields ih =>
      show ((join .and (leaf n field) (chain .and (leaves (n + 1) fields))).decide _ _ _).run w = _
      rw [decide_join, Combination.decide, Run.run_bind, decide_leaf, Item.matches]
      cases entity.follow props field.1 with
      | error f => rfl
      | ok i =>
          show ((if i.eq (.datum field.2) then _ else return false : Run Bool)).run w =
            (if i.eq (.datum field.2) then entity.matches props fields else return false, w)
          cases i.eq (.datum field.2) with
          | true => exact ih (n + 1)
          | false => rfl

/-- All leaves are closed lambdas without lambdas inside, and none makes copies. -/
structure Flat (s : Spec) : Prop where
  closed : ∀ l ∈ s.lambdas, l.Closed ∧ l.body.binders = []
  copies : s.copies = 0

lemma flat_everything : Flat everything :=
  ⟨List.forall_mem_singleton.mpr ⟨⟨rfl, rfl⟩, rfl⟩, rfl⟩

lemma flat_leaf {field : String × Datum} (h : field.1 ≠ "") (n : Nat) : Flat (leaf n field) := by
  obtain ⟨l, hl, hclosed⟩ := compareField_closed (compareField_leaf field h n)
  rw [hl]
  exact ⟨List.forall_mem_singleton.mpr hclosed, rfl⟩

lemma Flat.join {l r : Spec} (hl : l.Flat) (hr : r.Flat) (c : Combination) : (join c l r).Flat := by
  unfold Spec.join
  split_ifs
  · exact hr
  · exact hl
  · exact ⟨List.forall_mem_append.mpr ⟨hl.closed, hr.closed⟩, by rw [Spec.copies, hl.copies, hr.copies]⟩

lemma Flat.isolated {s : Spec} (h : s.Flat) (n : Nat) : s.Isolated n := by
  refine ⟨fun l hl => (h.closed l hl).1, fun l hl b hb => ?_⟩
  rw [(h.closed l hl).2] at hb
  cases hb

lemma flat_conjunction (h : ∀ f ∈ fields, f.1 ≠ "") (n : Nat) :
    (conjunction (leaves n fields)).Flat := by
  have onto : ∀ (n : Nat) (s : Spec), s.Flat → ((leaves n fields).foldl (join .and) s).Flat := by
    induction fields with
    | nil => exact fun n s hs => hs
    | cons field fields ih =>
        obtain ⟨hfield, hfields⟩ := List.forall_mem_cons.mp h
        exact fun n s hs => ih hfields (n + 1) _ (hs.join (flat_leaf hfield n) .and)
  exact onto n everything flat_everything

end Meaning

/-- A condition says that the fields of an entity equal the values, taken in order. -/
structure Conjunction (s : Spec) (fields : List (String × Datum)) : Prop where
  /-- Without fields it is the neutral element. -/
  everything : s = everything ↔ fields = []
  /-- With a single one it is a leaf. -/
  single : (∃ l, s = tree l) ↔ ∃ field, fields = [field]
  /-- Compiled, it ends like the walk through the fields and records nothing. -/
  test : ∀ (props : EvaluationProperties) (n : Nat), ∃ c, (s.compile props).run n = .ok (c, n) ∧
    ∀ (host : Host) (entity : Item) (w : World),
      Run.outcome (c.test host entity) w = (entity.matches props fields, w.seen)
  satisfied : ∀ (host : Host) (entity : Item) (w : World),
    Run.outcome (s.satisfied host entity) w =
      ((entity.matches .default fields).mapError .fault, w.seen)

/-- **The conjunction of leaves says what the walk says.** -/
theorem conjunction_leaves {fields : List (String × Datum)} (h : ∀ f ∈ fields, f.1 ≠ "") (n : Nat) :
    Conjunction (conjunction (leaves n fields)) fields := by
  have compiled : ∀ (props : EvaluationProperties) (k : Nat), ∃ c,
      ((conjunction (leaves n fields)).compile props).run k = .ok (c, k) ∧
      ∀ (host : Host) (entity : Item) (w : World),
        Run.outcome (c.test host entity) w = (entity.matches props fields, w.seen) := by
    intro props k
    obtain ⟨c, hcompile, hdecides⟩ := compile_decides ((flat_conjunction h n).isolated k) props
    rw [(flat_conjunction h n).copies] at hcompile
    refine ⟨c, hcompile, fun host entity w => ?_⟩
    rw [(hdecides host entity).outcome_eq, Run.outcome, decide_conjunction]
  refine ⟨conjunction_eq_everything_iff n, conjunction_eq_tree_iff n, compiled, ?_⟩
  intro host entity w
  obtain ⟨c, hcompile, houtcome⟩ := compiled .default w.next
  rw [outcome_satisfied hcompile, houtcome]
  rfl

/-- What is made of named values: a conjunction, or the fault of the first name that is none. -/
structure Conjoins (build : Build Spec) (pairs : List (Value × Datum)) : Prop where
  conjunction : ∀ fields : List (String × Datum), pairs = fields.map named →
    (∀ f ∈ fields, f.1 ≠ "") → ∀ n, ∃ s, build.run n = .ok (s, n + fields.length) ∧
      Conjunction s fields
  badName : ∀ (before : List (String × Datum)) (k : Value) (v : Datum) (after : List (Value × Datum)),
    pairs = before.map named ++ (k, v) :: after → (∀ f ∈ before, f.1 ≠ "") →
    (∀ s, k = .str s → s = "") → ∀ n, build.run n = .error (badName k)

theorem conjoins_equalities (pairs : List (Value × Datum)) : Conjoins (equalities pairs) pairs where
  conjunction := by
    rintro fields rfl named n
    exact ⟨_, equalities_run named n, conjunction_leaves named n⟩
  badName := by
    rintro before k v after rfl named hk n
    exact equalities_badName named hk after n

/-! ## Mappings, examples and named values -/

/-- The attributes or fields of an object by name, with the values as parts of it. -/
def attributesOf (d : Datum) (parts : List (String × Value)) : List (Value × Datum) :=
  parts.zipIdx.map fun ((k, v), i) => (Value.str k, Datum.mk v (d.origin.part i))

lemma ofMapping_eq {d : Datum} {entries : List (Value × Value)}
    (h : d.value = .map entries ∨ d.value = .view entries) :
    ofMapping d = equalities (given (entriesOf d entries)) := by
  obtain ⟨v, o⟩ := d
  obtain rfl | rfl := h <;> rfl

lemma ofExample_eq {d : Datum} {parts : List (String × Value)}
    (h : d.value = .record parts ∨ d.value = .data parts) :
    ofExample d = equalities (given (attributesOf d parts)) := by
  obtain ⟨v, o⟩ := d
  obtain rfl | rfl := h <;> rfl

section Names

variable {pairs : List (String × Datum)}

lemma named_texts : ¬ ((pairs.map named).any fun p => p.1.text?.isNone) = true := by
  simp [named, Value.text?]

lemma named_taken_iff :
    ((pairs.map named).any fun p => p.1.text? == some "cls") = true ↔ ∃ p ∈ pairs, p.1 = "cls" := by
  simp [List.any_eq_true, named, Value.text?]

/-- Values may be given by any names but that of the parameter that is taken. -/
lemma ofNamed_eq (h : ∀ p ∈ pairs, p.1 ≠ "cls") :
    ofNamed (pairs.map named) = equalities (pairs.map named) := by
  have hfree : ¬ ((pairs.map named).any fun p => p.1.text? == some "cls") = true := by
    rw [named_taken_iff]
    rintro ⟨p, hp, heq⟩
    exact h p hp heq
  rw [ofNamed, if_neg named_texts, if_neg hfree]

lemma ofNamed_taken (h : ∃ p ∈ pairs, p.1 = "cls") (n : Nat) :
    (ofNamed (pairs.map named)).run n =
      .error (.fault (.repeatedArgument "FilterUtils.by" "cls")) := by
  rw [ofNamed, if_neg named_texts, if_pos (named_taken_iff.mpr h)]
  rfl

end Names

/-- Names and values, whatever objects the values are. -/
def plainPairs (pairs : List (Value × Datum)) : List (Value × Value) :=
  pairs.map fun p => (p.1, p.2.value)

/-- The mapping of an object's attributes has the same values under the same names. -/
lemma plainPairs_attributesOf (d m : Datum) (parts : List (String × Value)) :
    plainPairs (given (attributesOf d parts)) =
      plainPairs (given (entriesOf m (parts.map fun p => (Value.str p.1, p.2)))) := by
  have hgiven : ∀ pairs, plainPairs (given pairs) = (plainPairs pairs).filter (!·.2.isNone) := by
    intro pairs
    rw [plainPairs, plainPairs, List.filter_map]
    rfl
  have hplain : plainPairs (attributesOf d parts) =
      plainPairs (entriesOf m (parts.map fun p => (Value.str p.1, p.2))) := by
    refine List.ext_getElem (by simp [plainPairs, attributesOf, entriesOf]) fun i h h' => ?_
    simp [plainPairs, attributesOf, entriesOf]
  rw [hgiven, hgiven, hplain]

/-- **A condition by example is the ordered conjunction of its fields.**  A mapping gives its entries,
without those that hold none, and an object its attributes, which are those of the mapping of its
attributes.  Values by name are all taken, unless one has the name of the parameter that is taken: then
there is no condition at all. -/
theorem conjoins_example (d : Datum) (entries : List (Value × Value)) (parts : List (String × Value))
    (pairs : List (String × Datum)) :
    (d.value = .map entries ∨ d.value = .view entries →
      Conjoins (ofMapping d) (given (entriesOf d entries))) ∧
    (d.value = .record parts ∨ d.value = .data parts →
      Conjoins (ofExample d) (given (attributesOf d parts)) ∧
      ∀ m : Datum, m.value = .map (parts.map fun p => (Value.str p.1, p.2)) →
        ∃ asked, Conjoins (ofMapping m) asked ∧
          plainPairs (given (attributesOf d parts)) = plainPairs asked) ∧
    ((∀ p ∈ pairs, p.1 ≠ "cls") → Conjoins (ofNamed (pairs.map named)) (pairs.map named)) ∧
    ((∃ p ∈ pairs, p.1 = "cls") → ∀ n, (ofNamed (pairs.map named)).run n =
      .error (.fault (.repeatedArgument "FilterUtils.by" "cls"))) := by
  refine ⟨fun h => ?_, fun h => ⟨?_, fun m hm => ⟨_, ?_, plainPairs_attributesOf d m parts⟩⟩,
    fun h => ?_, ofNamed_taken⟩
  · rw [ofMapping_eq h]
    exact conjoins_equalities _
  · rw [ofExample_eq h]
    exact conjoins_equalities _
  · rw [ofMapping_eq (.inl hm)]
    exact conjoins_equalities _
  · rw [ofNamed_eq h]
    exact conjoins_equalities _

/-- An engine by its author and year; its owner is left open. -/
def engineExample : Datum :=
  ⟨.map [(.str "author.name", .str "Ada"), (.str "owner", .none), (.str "year", .int 1843)], ⟨1, []⟩⟩

/-- Somebody else's engine has no year, but is told apart before that is asked for. -/
theorem conjoins_example_engine :
    let author (name : String) : Value := .map [(.str "name", .str name)]
    let entity (name : String) : Item := .datum ⟨.map [(.str "author", author name)], ⟨2, []⟩⟩
    let fields : List (String × Datum) :=
      [("author.name", ⟨.str "Ada", ⟨1, [1]⟩⟩), ("year", ⟨.int 1843, ⟨1, [5]⟩⟩)]
    ∃ s, (ofMapping engineExample).run 3 = .ok (s, 5) ∧ Conjunction s fields ∧
      Run.outcome (s.satisfied Standard.host (entity "Bob")) ⟨[], 5⟩ = (.ok false, [], 5) ∧
      Run.outcome (s.satisfied Standard.host (entity "Ada")) ⟨[], 5⟩ =
        (.error (.fault (.missingKey (.str "year"))), [], 5) := by
  intro author entity fields
  obtain ⟨hmapping, -⟩ := conjoins_example engineExample _ [] []
  obtain ⟨s, hs, hmeaning⟩ := (hmapping (.inl rfl)).conjunction fields rfl (by decide) 3
  have hbob : (entity "Bob").matches .default fields = .ok false := by cbv
  have hada : (entity "Ada").matches .default fields = .error (.missingKey (.str "year")) := by cbv
  refine ⟨s, hs, hmeaning, ?_, ?_⟩
  · rw [hmeaning.satisfied, hbob]
    rfl
  · rw [hmeaning.satisfied, hada]
    rfl

/-- A name may be that of the parameter which is taken, and the message about a name may be impossible
to write. -/
theorem ofNamed_cls :
    (∃ f, (ofNamed [(.str "cls", ⟨.int 1, ⟨1, []⟩⟩)]).run 3 = .error (.fault f)) ∧
    (∃ s, (ofMapping ⟨.map [(.str "cls", .int 1)], ⟨1, []⟩⟩).run 3 = .ok (s, 4) ∧
      Run.outcome (s.satisfied Standard.host (.datum ⟨.map [(.str "cls", .int 1)], ⟨2, []⟩⟩)) ⟨[], 4⟩ =
        (.ok true, [], 4)) ∧
    (ofMapping ⟨.map [(.int (10 ^ 4300), .int 1)], ⟨1, []⟩⟩).run 3 =
      .error (.fault .unwritableInteger) := by
  have unwritable : badName (.int (10 ^ 4300)) = .fault .unwritableInteger :=
    if_neg (by decide +kernel)
  have hleaf : (ofMapping ⟨.map [(.str "cls", .int 1)], ⟨1, []⟩⟩).run 3 =
      .ok (leaf 3 ("cls", ⟨.int 1, ⟨1, [1]⟩⟩), 4) := rfl
  refine ⟨⟨_, rfl⟩, ⟨_, hleaf, ?_⟩, ?_⟩
  · cbv
  · rw [ofMapping_eq (.inl rfl), ← unwritable]
    exact @equalities_badName _ ⟨.int 1, ⟨1, [1]⟩⟩ [] (List.forall_mem_nil _) (fun s h => by cases h) [] 3

end Spec

end Criteria
