import Criteria.Proofs.Mongo.Fragment
import Criteria.Proofs.Mongo.Pattern
import Criteria.Proofs.Spec.Place
import Criteria.Proofs.Text.Spelling

/-!
# Field paths

A leaf names a field by a text.  The text is taken apart into member accesses.  For a store it is put
together again from these, and evaluation reads one member after the other.

**Names.**
* `Text.SplitsInto` — the components of a name, and `splitsInto_iff`, that there are no other ones than
  its parts.
* `fieldPath_eq_ok_iff_path` — taking a name apart and putting it together are inverse to each other.

**Leaves.**
* `FieldCondition` — the comparisons of a field with constants, and `FieldLeaf`, the leaves for them.
* `FieldCondition.value_body`, `keyedBy_of_filterOf` — their evaluation and their documents.
* `Survives` — what becomes of the name of a field in documents and in compositions.
* **`path_survives`** — it comes through both.
-/

namespace Criteria

/-! ## Names -/

namespace Text

/-- The components of a name: texts without dots that with dots between them are the name. -/
structure SplitsInto (name : String) (parts : List String) : Prop where
  nonempty : parts ≠ []
  dotless : ∀ part ∈ parts, '.' ∉ part.toList
  joined : ".".intercalate parts = name

lemma splitDots_dotless : ∀ cs : List Char, ∀ part ∈ splitDots cs, '.' ∉ part
  | [], part, h => by
      rw [List.mem_singleton.mp h]
      exact List.not_mem_nil
  | c :: cs, part, h => by
      have ih := splitDots_dotless cs
      rw [splitDots] at h
      cases hparts : splitDots cs with
      | nil => exact absurd hparts (splitDots_ne_nil cs)
      | cons first rest =>
          rw [hparts] at h ih
          obtain ⟨hfirst, hrest⟩ := List.forall_mem_cons.mp ih
          dsimp only at h
          split_ifs at h with hdot
          · obtain rfl | h := List.mem_cons.mp h
            · exact List.not_mem_nil
            · exact ih part h
          · obtain rfl | h := List.mem_cons.mp h
            · rw [List.mem_cons, not_or]
              exact ⟨Ne.symm hdot, hfirst⟩
            · exact hrest part h

/-- Components are found again in the name that they make. -/
lemma dotted_intercalate : ∀ {parts : List String}, parts ≠ [] →
    (∀ part ∈ parts, '.' ∉ part.toList) → dotted (".".intercalate parts) = parts
  | [], nonempty, _ => absurd rfl nonempty
  | [part], _, dotless => by
      rw [String.intercalate_singleton]
      exact dotted_of_not_mem (dotless part (List.mem_singleton_self part))
  | part :: next :: parts, _, dotless => by
      obtain ⟨hpart, hrest⟩ := List.forall_mem_cons.mp dotless
      rw [String.intercalate_cons_cons, dotted_join, dotted_of_not_mem hpart,
        dotted_intercalate (List.cons_ne_nil next parts) hrest]
      rfl

/-- **A name has no other components than its parts.** -/
theorem splitsInto_iff {name : String} {parts : List String} :
    SplitsInto name parts ↔ parts = dotted name := by
  constructor
  · rintro ⟨nonempty, dotless, rfl⟩
    exact (dotted_intercalate nonempty dotless).symm
  · rintro rfl
    refine ⟨?_, ?_, intercalate_dotted name⟩
    · rw [dotted, Ne, List.map_eq_nil_iff]
      exact splitDots_ne_nil name.toList
    · intro part hpart
      obtain ⟨cs, hcs, rfl⟩ := List.mem_map.mp hpart
      rw [String.toList_ofList]
      exact splitDots_dotless name.toList cs hcs

end Text

namespace Mongo

/-- **Names and nested members.**  The members whose path is a name are the ones into which it is taken
apart, as long as no member has a dot in its own name. -/
theorem fieldPath_eq_ok_iff_path (p : Param) {name : String} {names : List String}
    (nonempty : names ≠ []) (dotless : ∀ n ∈ names, '.' ∉ n.toList) :
    fieldPath (.param p) (names.foldl .member (.param p)) = .ok name ↔
      names.foldl Expr.member (.param p) = .path (.param p) name := by
  constructor
  · intro h
    rw [fieldPath_foldl, Except.ok.injEq] at h
    rw [Expr.path, ← h, Text.dotted_intercalate nonempty dotless]
  · intro h
    rw [h, fieldPath_path]

end Mongo

namespace Expr

lemma rebound_path (p t : Param) (name : String) :
    rebound p t (path (param p) name) = path (param t) name := by
  have hfold : ∀ (names : List String) (e : Expr),
      rebound p t (names.foldl member e) = names.foldl member (rebound p t e) := by
    intro names
    induction names with
    | nil => intro e; rfl
    | cons name names ih => intro e; rw [List.foldl_cons, ih]; rfl
  rw [path, hfold, rebound, mapParams, replacement_eq_redirect, redirect_source]
  rfl

lemma hasForeign_path (p : Param) (name : String) : (path (param p) name).hasForeign = false :=
  path_eq hasForeign (fun _ _ => rfl) (param p) name

end Expr

/-! ## Leaves -/

/-- What leaves demand of a field. -/
inductive FieldCondition where
  /-- It compares with a constant. -/
  | comparison (op : CompareOp) (d : Datum)
  /-- It is between two constants. -/
  | range (low high : Datum)

namespace FieldCondition

open Mongo (comparing fieldTest filterOf)

/-- The condition on the field of the given name. -/
def body (name : String) : FieldCondition → Param → Expr
  | comparison op d, p => comparing op p name d
  | range low high, p => .and (comparing .ge p name low) (comparing .le p name high)

/-- The decision on the field as it is read. -/
def decide (read : Except Fault Item) : FieldCondition → Except Fault Bool
  | comparison op d => do
    let i ← read
    op.holds i (.datum d)
  | range low high => do
    let i ← read
    let above ← CompareOp.holds .ge i (.datum low)
    if above then CompareOp.holds .le i (.datum high) else return false

/-- The document tests the named field and nothing else.  A range is two tests. -/
def KeyedBy (name : String) : FieldCondition → Value → Prop
  | comparison _ _, document => ∃ v, document = .map [(.str name, v)]
  | range low high, document => document = .map [(.str "$and", .list
      [.map [(.str name, .map [(.str "$gte", low.value)])],
        .map [(.str name, .map [(.str "$lte", high.value)])]])]

/-- What is searched for in a text has a text itself: an integer with too many digits has none. -/
def HasText : FieldCondition → Prop
  | comparison .contains d | comparison .like d => d.value.isWritable = true
  | _ => True

/-! ### In memory -/

lemma isQuiet_body (name : String) (c : FieldCondition) (p : Param) :
    (c.body name p).isQuiet = true := by
  cases c <;> simp [body, comparing, Expr.isQuiet, Expr.isQuiet_path]

/-- The condition reads the field of what the parameter stands for, and decides. -/
lemma value_body (name : String) (c : FieldCondition) (p : Param) (props : EvaluationProperties)
    (i : Item) : (c.body name p).value props [(p, i)] =
      (do return Item.ofBool (← c.decide (i.follow props name))) := by
  cases c with
  | comparison op d =>
      simp only [body, comparing, Expr.value, Expr.value_path, decide, bind_assoc]
      rfl
  | range low high =>
      simp only [body, comparing, Expr.value, Expr.value_path, decide]
      cases i.follow props name with
      | error f => rfl
      | ok j =>
          cases habove : CompareOp.holds .ge j (.datum low) with
          | error f => simp only [bind, Except.bind, habove]
          | ok above =>
              simp only [bind, Except.bind, habove]
              cases above <;> rfl

/-- The condition can be stated about any parameter. -/
lemma carried (name : String) (c : FieldCondition) : Spec.Carried (c.body name) where
  closed p := by
    have hside : ∀ op d, Expr.check [p] (comparing op p name d) = .ok () :=
      fun _ _ => Expr.check_pair.mpr ⟨Expr.check_path p name, rfl⟩
    have hproper : (c.body name p).isProper = true := by
      cases c <;> simp [body, comparing, Expr.isProper]
    refine Lambda.closed_of_check hproper ?_
    cases c with
    | comparison op d => exact hside op d
    | range low high => exact Expr.check_pair.mpr ⟨hside .ge low, hside .le high⟩
  rebound p t := by
    have hside : ∀ op d, Expr.rebound p t (comparing op p name d) = comparing op t name d := by
      intro op d
      rw [comparing, comparing, ← Expr.rebound_path p t]
      rfl
    cases c with
    | comparison op d => exact hside op d
    | range low high =>
        rw [body, body, ← hside, ← hside]
        rfl

/-! ### In documents -/

section Documents

variable {options : Mongo.Options} {name : String} {p : Param} {f : Mongo.Filter}

/-- The filter of a comparison tests the field of that name. -/
lemma filterOf_comparing {op : CompareOp} {d : Datum}
    (h : filterOf options (.param p) (comparing op p name d) = .ok f) :
    ∃ test, fieldTest options op d = .ok test ∧ f = .field name test := by
  obtain ⟨-, _, path, test, ⟨rfl⟩, hpath, htest, rfl⟩ := Mongo.comparison_eq_ok_iff.mp h
  rw [Mongo.fieldPath_path] at hpath
  cases hpath
  exact ⟨test, htest, rfl⟩

/-- Every filter of the condition is keyed by the name of the field. -/
lemma keyedBy_of_filterOf {c : FieldCondition}
    (h : filterOf options (.param p) (c.body name p) = .ok f) : c.KeyedBy name f.document := by
  cases c with
  | comparison op d =>
      obtain ⟨test, -, rfl⟩ := filterOf_comparing h
      exact ⟨_, rfl⟩
  | range low high =>
      obtain ⟨f, hlow, h⟩ := bind_eq_ok.mp h
      obtain ⟨g, hhigh, h⟩ := bind_eq_ok.mp h
      obtain ⟨_, ⟨rfl⟩, rfl⟩ := filterOf_comparing hlow
      obtain ⟨_, ⟨rfl⟩, rfl⟩ := filterOf_comparing hhigh
      cases h
      rfl

/-- The condition is in the language of the filter builder. -/
lemma filterable (name : String) (c : FieldCondition) (p : Param) :
    Mongo.Filterable p (c.body name p) := by
  have hfield : Mongo.FieldPath p (.path (.param p) name) :=
    .of_read (Expr.hasForeign_path p name) (Mongo.isAccess_path p name) (Mongo.fieldPath_path p name)
  cases c with
  | comparison op d => exact .compare op d hfield
  | range low high => exact .and (.compare .ge low hfield) (.compare .le high hfield)

/-- It holds no foreign node. -/
lemma hasForeign_body (name : String) (c : FieldCondition) (p : Param) :
    (c.body name p).hasForeign = false := by
  cases c <;> simp [body, comparing, Expr.hasForeign, Expr.hasForeign_path]

/-- What it searches for can be written. -/
lemma HasText.searchable {c : FieldCondition} (h : c.HasText) (name : String) (p : Param) :
    Mongo.Searchable (c.body name p) := by
  intro l d hmem
  cases c with
  | comparison op _ =>
      obtain hmem | hmem := hmem
      · cases List.mem_singleton.mp hmem
        exact h
      · cases List.mem_singleton.mp hmem
        exact h
  | range low high => simp [body, comparing, Expr.operands] at hmem

end Documents

end FieldCondition

namespace Spec

/-- The collection of a leaf, read once. -/
def kept (d : Datum) (items : List Datum) : Datum :=
  match d.value with
  | .tuple _ => d
  | _ => ⟨.tuple (items.map (·.value)), d.origin⟩

/-- A kept collection can be iterated over. -/
lemma exists_iterate_kept {d : Datum} {items : List Datum} (read : d.iterate = .ok items) :
    ∃ items', (kept d items).iterate = .ok items' := by
  rw [kept]
  split
  · exact ⟨items, read⟩
  · exact ⟨_, rfl⟩

/-- The leaves on one field, with what they demand of it.  That there is nothing in the field is a
comparison with `none`. -/
inductive FieldLeaf (field : Value) : Build Spec → FieldCondition → Prop
  | comparison (op : CompareOp) (d : Datum) (iterable : op = .isIn → ∃ items, d.iterate = .ok items) :
      FieldLeaf field (compareField op field d) (.comparison op d)
  | collection {d : Datum} {items : List Datum} (read : d.iterate = .ok items) :
      FieldLeaf field (oneOf field d) (.comparison .isIn (kept d items))
  | range (low high : Datum) : FieldLeaf field (between field low high) (.range low high)

/-- What a leaf asks to contain the field can be iterated over. -/
lemma FieldLeaf.iterable {field : Value} {leaf : Build Spec} {c : FieldCondition}
    (h : FieldLeaf field leaf c) (name : String) (p : Param) : Mongo.Iterable (c.body name p) := by
  intro l d hmem
  cases h with
  | comparison op _ iterable =>
      cases List.mem_singleton.mp hmem
      exact iterable rfl
  | collection read =>
      cases List.mem_singleton.mp hmem
      exact exists_iterate_kept read
  | range low high =>
      obtain hmem | hmem := List.mem_append.mp hmem
      · cases List.mem_singleton.mp hmem
      · cases List.mem_singleton.mp hmem

/-- A leaf on a field is the condition over a parameter of its own. -/
lemma FieldLeaf.run {name : String} (named : name ≠ "") {leaf : Build Spec} {c : FieldCondition}
    (h : FieldLeaf (.str name) leaf c) (n : Nat) : leaf.run n =
      .ok (tree ⟨.param ⟨n, Param.defaultName⟩, c.body name ⟨n, Param.defaultName⟩⟩, n + 1) := by
  cases h with
  | comparison op d _ => exact onField_run named _ n
  | collection read =>
      rw [oneOf, read]
      exact onField_run named _ n
  | range low high => exact onField_run named _ n

/-- The document of a leaf on a field is that of its condition. -/
lemma FieldLeaf.documentOf {name : String} (named : name ≠ "") {leaf : Build Spec}
    {c : FieldCondition} (h : FieldLeaf (.str name) leaf c) (options : Mongo.Options) (n : Nat) :
    (Mongo.documentOf options leaf).run n = (do
      let f ← Mongo.Filter.ofLambda options
        ⟨.param ⟨n, Param.defaultName⟩, c.body name ⟨n, Param.defaultName⟩⟩
      return (f.document, n + 1)) := by
  rw [Mongo.documentOf, Build.run_bind_ok (h.run named n)]
  show (liftM (Mongo.Filter.ofLambda options _) >>= fun f => pure f.document : Build Value).run
    (n + 1) = _
  cases Mongo.Filter.ofLambda options _ <;> rfl

/-- What becomes of the name of the field that a leaf is about. -/
structure Survives (name : String) (leaf : Build Spec) (c : FieldCondition) : Prop where
  /-- There is a leaf. -/
  built : ∀ n, ∃ s, leaf.run n = .ok (s, n + 1)
  /-- Whatever the options, its document is keyed by the name. -/
  written : ∀ {options : Mongo.Options} {n n' : Nat} {document : Value},
    (Mongo.documentOf options leaf).run n = .ok (document, n') → c.KeyedBy name document
  /-- So is the part of a document for what a composition makes of the leaf. -/
  rewritten : ∀ {options : Mongo.Options} {q : Param} {f : Mongo.Filter},
    Mongo.filterOf options (.param q) (c.body name q) = .ok f → c.KeyedBy name f.document
  /-- There is a document. -/
  translated : c.HasText → ∀ (flags : String) (n : Nat), ∃ document,
    (Mongo.documentOf ⟨.str flags⟩ leaf).run n = .ok (document, n + 1)
  /-- In any composition the leaf stands over the parameter of the whole, and reads the components of
  the name from the entity, the first one first. -/
  read : ∀ {parts : List String}, Text.SplitsInto name parts → ∀ {n n' : Nat} {s : Spec},
    leaf.run n = .ok (s, n') →
    ∀ {props : EvaluationProperties} {steps : List Step} {m m' : Nat} {whole : CompiledSpec},
      ((enclose steps s).compile props).run m = .ok (whole, m') →
      ∃ q joints, whole.predicate = ⟨props, .param q, Expr.enclose joints (c.body name q)⟩ ∧
        joints.map Expr.Joint.index = steps.flatMap Step.indices ∧
        whole.predicate.body.at? (steps.flatMap Step.indices) = some (c.body name q) ∧
        ∀ (host : Host) (entity : Item), whole.predicate.call host entity =
          Expr.outcome ⟨props, host⟩ ((⟨props, host⟩ : Evaluator).apply depthLimit) [(q, entity)]
            joints (Run.ofExcept (do return Item.ofBool (← c.decide
              (parts.foldlM (fun i part => props.read part i) entity))))
  /-- Compositions with closed conditions compile. -/
  compiled : ∀ {n n' : Nat} {s : Spec}, leaf.run n = .ok (s, n') →
    ∀ {steps : List Step}, (∀ step ∈ steps, ∀ l ∈ step.siblings, l.Closed) →
    ∀ (props : EvaluationProperties) (m : Nat), ∃ whole,
      ((enclose steps s).compile props).run m = .ok (whole, m + (enclose steps s).copies)

/-- The name survives in every leaf. -/
lemma FieldLeaf.survives {name : String} (named : name ≠ "") {leaf : Build Spec}
    {c : FieldCondition} (h : FieldLeaf (.str name) leaf c) : Survives name leaf c where
  built n := ⟨_, h.run named n⟩
  written hdocument := by
    rw [h.documentOf named] at hdocument
    obtain ⟨f, hf, hresult⟩ := bind_eq_ok.mp hdocument
    cases hresult
    exact FieldCondition.keyedBy_of_filterOf hf
  rewritten := FieldCondition.keyedBy_of_filterOf
  translated hasText flags n := by
    have hfilterable := FieldCondition.filterable name c ⟨n, Param.defaultName⟩
    obtain ⟨f, hf⟩ : ∃ f, Mongo.filterOf ⟨.str flags⟩ _ _ = .ok f :=
      (Mongo.exists_filter_iff (c.hasForeign_body name _) (h.iterable name _)).mpr
        ⟨hfilterable, hasText.searchable name _⟩
    refine ⟨f.document, ?_⟩
    rw [h.documentOf named]
    exact bind_eq_ok.mpr ⟨f, hf, rfl⟩
  read {parts} hparts {n n' s} hrun {props steps m m' whole} hcompile := by
    cases (h.run named n).symm.trans hrun
    obtain ⟨q, joints, hwhole, hindices, hcall⟩ := compile_enclose (c.carried name) _ hcompile
    refine ⟨q, joints, hwhole, hindices, ?_, fun host entity => ?_⟩
    · rw [hwhole, ← hindices]
      exact Expr.at?_enclose joints (c.body name q)
    · rw [hcall, Expr.eval_quiet _ (c.isQuiet_body name q), c.value_body, Text.splitsInto_iff.mp hparts]
      rfl
  compiled {n n' s} hrun {steps} closed props m := by
    cases (h.run named n).symm.trans hrun
    have hleaf : ∀ l ∈ lambdas (tree ⟨.param ⟨n, Param.defaultName⟩, c.body name _⟩), l.Closed :=
      List.forall_mem_singleton.mpr ((c.carried name).closed _)
    exact exists_compile (closed_enclose hleaf closed) m props

/-- **Field paths survive the tree.**  A name has one list of components.  To take it apart into member
accesses and to put the names of nested members together are inverse to each other.  So every leaf on
the field has documents that are keyed by exactly the name, and evaluation reads exactly its components,
from first to last, wherever in a composition the leaf stands. -/
theorem path_survives {name : String} (named : name ≠ "") :
    (∀ parts, Text.SplitsInto name parts ↔ parts = Text.dotted name) ∧
    (∀ p, Mongo.fieldPath (.param p) (.path (.param p) name) = .ok name ∧
      ∀ names : List String, names ≠ [] → (∀ n ∈ names, '.' ∉ n.toList) →
        (Mongo.fieldPath (.param p) (names.foldl .member (.param p)) = .ok name ↔
          names.foldl Expr.member (.param p) = .path (.param p) name)) ∧
    ∀ {leaf c}, FieldLeaf (.str name) leaf c → Survives name leaf c := by
  refine ⟨fun parts => Text.splitsInto_iff, fun p => ⟨Mongo.fieldPath_path p name, ?_⟩, ?_⟩
  · intro names nonempty dotless
    exact Mongo.fieldPath_eq_ok_iff_path p nonempty dotless
  · intro leaf c h
    exact h.survives named

/-- A place below negations, beside a condition with a lambda that binds the parameter `b`. -/
def crowded (b : Param) : List Step :=
  [.right .nor (tree ⟨.param ⟨1, "p"⟩, Expr.echoing ⟨1, "p"⟩ b⟩), .left .nand everything, .negation]

/-- An entity with mappings under empty keys. -/
def parcel : Item :=
  .datum ⟨.map [(.str "", .map [(.str "", .record [("zip", .str "115")])])], ⟨4, []⟩⟩

/-- A name of which two components are empty.  Both halves of a range are keyed by it, and the range
holds of an entity with such keys, also in a crowded place. -/
theorem path_survives_leading :
    "..zip" ≠ "" ∧ Text.SplitsInto "..zip" ["", "", "zip"] ∧
    (Mongo.documentOf ⟨.str "i"⟩
        (between (.str "..zip") ⟨.str "10", ⟨1, []⟩⟩ ⟨.str "19", ⟨2, []⟩⟩)).run 3 =
      .ok (.map [(.str "$and", .list [.map [(.str "..zip", .map [(.str "$gte", .str "10")])],
        .map [(.str "..zip", .map [(.str "$lte", .str "19")])]])], 4) ∧
    ∃ s whole q joints condition,
      (between (.str "..zip") ⟨.str "10", ⟨1, []⟩⟩ ⟨.str "19", ⟨2, []⟩⟩).run 3 = .ok (s, 4) ∧
      ((enclose (crowded ⟨3, Param.defaultName⟩) s).compile .default).run 4 = .ok (whole, 4) ∧
      whole.predicate = ⟨.default, .param q, Expr.enclose joints condition⟩ ∧
      joints.map Expr.Joint.index = [1, 0, 0, 0, 0] ∧
      ∀ host, whole.predicate.call host parcel =
        Expr.outcome ⟨.default, host⟩ ((⟨.default, host⟩ : Evaluator).apply depthLimit) [(q, parcel)]
          joints (pure (.ofBool true)) := by
  have named : "..zip" ≠ "" := by decide
  obtain ⟨hsplit, -, hleaf⟩ := path_survives named
  have survives := hleaf (.range ⟨.str "10", ⟨1, []⟩⟩ ⟨.str "19", ⟨2, []⟩⟩)
  have hparts : Text.SplitsInto "..zip" ["", "", "zip"] := (hsplit _).mpr (by decide)
  have closed : ∀ step ∈ crowded ⟨3, Param.defaultName⟩, ∀ l ∈ step.siblings, l.Closed := by
    refine List.forall_mem_cons.mpr ⟨List.forall_mem_singleton.mpr ⟨rfl, rfl⟩, ?_⟩
    refine List.forall_mem_cons.mpr ⟨List.forall_mem_singleton.mpr ⟨rfl, rfl⟩, ?_⟩
    exact List.forall_mem_singleton.mpr fun _ h => nomatch h
  refine ⟨named, hparts, ?_, ?_⟩
  · obtain ⟨document, hdocument⟩ := survives.translated trivial "i" 3
    rw [← survives.written hdocument]
    exact hdocument
  · obtain ⟨s, hrun⟩ := survives.built 3
    obtain ⟨whole, hcompile⟩ := survives.compiled hrun closed .default 4
    obtain ⟨q, joints, hwhole, hindices, -, hcall⟩ := survives.read hparts hrun hcompile
    cases hrun
    refine ⟨_, whole, q, joints, _, rfl, hcompile, hwhole, hindices, fun host => ?_⟩
    exact (hcall host parcel).trans rfl

end Spec

end Criteria
