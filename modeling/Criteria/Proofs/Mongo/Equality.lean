import Criteria.Proofs.Mongo.Meaning
import Criteria.Proofs.Spec.Reference
import Criteria.Spec.Example

/-!
# Equality as a bare value

The test that a field equals a value is written as the bare value, every other test of a field as a
sub-document of operators.  A store tells the two apart by what it finds beside the field.

* `reading` — how a store reads the document of one field.
* `fieldTest_operators` — every test but equality is written with operators.
* **`documentOf_eq`** — an equality is read as one exactly if its value is not written like operators.
  Then no other test of the field has the same document.
* `documentOf_eq_operators` — a value that is written like an operator is read as that operator.
-/

namespace Criteria.Mongo

/-! ## Readings -/

/-- Whether the key is a text that begins with a dollar sign. -/
def isOperatorKey : Value → Bool
  | .str key => key.toList.head? = some '$'
  | _ => false

/-- Whether the value is a sub-document whose first key begins with a dollar sign. -/
def isOperatorExpression (v : Value) : Bool :=
  match v.mapping? with
  | some ((key, _) :: _) => isOperatorKey key
  | _ => false

/-- What a store makes of the value beside a field. -/
inductive Reading where
  /-- The field equals the value. -/
  | equality (v : Value)
  /-- The field passes the tests that the sub-document lists. -/
  | operators (v : Value)
  deriving Repr

/-- How a store reads the document of one field. -/
def reading : Value → Option (String × Reading)
  | .map [(.str field, v)] =>
    some (field, if isOperatorExpression v then .operators v else .equality v)
  | _ => none

/-- The document of a leaf. -/
def documentOf (options : Options) (leaf : Build Spec) : Build Value := do
  let s ← leaf
  let l ← s.toLambda
  let f ← Filter.ofLambda options l
  return f.document

/-! ## Operators -/

/-- A key that equals an operator is one. -/
lemma isOperatorKey_of_eq {k k' : Value} (heq : k.eq k' = true) (h : isOperatorKey k' = true) :
    isOperatorKey k = true := by
  cases k' with
  | str t =>
      cases k with
      | str s =>
          obtain rfl : s = t := by simpa [Value.eq] using heq
          exact h
      | map es | view es => simp [Value.eq, Value.mapping?] at heq
      | _ => simp [Value.eq, Value.number?] at heq
  | _ => simp [isOperatorKey] at h

/-- Operators are found only under keys that are operators. -/
lemma find?_operators {k : Value} {entries : List (Value × Value)} (hk : isOperatorKey k = false)
    (keys : ∀ e ∈ entries, isOperatorKey e.1 = true) :
    entries.find? (fun e => k.eq e.1) = none := by
  refine List.find?_eq_none.mpr fun e he heq => ?_
  rw [isOperatorKey_of_eq heq (keys e he)] at hk
  cases hk

/-- A sub-document with operators and nothing else. -/
def IsOperators (v : Value) : Prop :=
  ∃ entries, v = .map entries ∧ entries ≠ [] ∧ ∀ e ∈ entries, isOperatorKey e.1 = true

lemma IsOperators.single {key : Value} (h : isOperatorKey key = true) (v : Value) :
    IsOperators (.map [(key, v)]) :=
  ⟨_, rfl, List.cons_ne_nil _ _, List.forall_mem_singleton.mpr h⟩

lemma IsOperators.isOperatorExpression {v : Value} (h : IsOperators v) :
    isOperatorExpression v = true := by
  obtain ⟨entries, rfl, nonempty, keys⟩ := h
  obtain ⟨⟨key, x⟩, es, rfl⟩ := List.exists_cons_of_ne_nil nonempty
  exact keys _ List.mem_cons_self

/-- Only operator expressions equal a sub-document of operators. -/
lemma eq_operators {v w : Value} (hv : isOperatorExpression v = false) (hw : IsOperators w) :
    v.eq w = false := by
  obtain ⟨entries, rfl, nonempty, keys⟩ := hw
  have within : ∀ es : List (Value × Value), isOperatorExpression (.map es) = false →
      (es.length == entries.length && Value.within es entries) = false
    | [], _ => by
        have hlength : 0 ≠ entries.length := (mt List.length_eq_zero_iff.mp nonempty) ∘ Eq.symm
        rw [List.length_nil, beq_false_of_ne hlength, Bool.false_and]
    | (k, x) :: es, hfirst => by
        rw [Value.within, find?_operators hfirst keys, Bool.false_and, Bool.and_false]
  cases v with
  | map es | view es => exact within es hv
  | _ => simp [Value.eq, Value.number?]

lemma matching_operators (pattern : String) (flags : Value) :
    IsOperators (FieldTest.matching pattern flags).document := by
  have hregex : isOperatorKey (.str "$regex") = true := by decide
  have hoptions : isOperatorKey (.str "$options") = true := by decide
  refine ⟨_, rfl, List.cons_ne_nil _ _, List.forall_mem_cons.mpr ⟨hregex, ?_⟩⟩
  split_ifs
  · exact List.forall_mem_singleton.mpr hoptions
  · exact fun _ he => nomatch he

/-- **Every test but equality is written with operators.** -/
lemma fieldTest_operators {options : Options} {op : CompareOp} {d : Datum} {test : FieldTest}
    (other : op ≠ .eq ∧ op ≠ .same) (h : fieldTest options op d = .ok test) :
    IsOperators test.document := by
  have keyword : ∀ r : Relation, isOperatorKey (.str r.keyword) = true := by
    intro r
    cases r <;> decide
  have hin : isOperatorKey (.str "$in") = true := by decide
  cases op with
  | eq => exact absurd rfl other.1
  | same => exact absurd rfl other.2
  | ne | notSame | lt | le | gt | ge =>
      cases h
      exact .single (keyword _) _
  | isIn =>
      obtain ⟨items, -, h⟩ := bind_eq_ok.mp h
      cases h
      exact .single hin _
  | contains =>
      obtain ⟨text, -, h⟩ := bind_eq_ok.mp h
      cases h
      exact matching_operators _ _
  | like =>
      obtain ⟨pattern, -, h⟩ := bind_eq_ok.mp h
      obtain ⟨flags, -, h⟩ := bind_eq_ok.mp h
      cases h
      exact matching_operators _ _

/-! ## Paths -/

lemma accessPath_foldl (names : List String) (e : Expr) :
    accessPath (names.foldl .member e) = ((accessPath e).1 ++ names, (accessPath e).2) := by
  induction names generalizing e with
  | nil => rw [List.append_nil]; rfl
  | cons name names ih => rw [List.foldl_cons, ih, accessPath, List.append_assoc]; rfl

/-- The names of nested members are put together with dots between them. -/
lemma fieldPath_foldl (p : Param) (names : List String) :
    fieldPath (.param p) (names.foldl .member (.param p)) = .ok (".".intercalate names) := by
  have hpath : accessPath (names.foldl .member (.param p)) = (names, .param p) :=
    accessPath_foldl names (.param p)
  simp only [fieldPath, hpath, Expr.sameObject_param_iff, if_true]

/-- The path of a field's access is the name of the field. -/
lemma fieldPath_path (p : Param) (name : String) :
    fieldPath (.param p) (.path (.param p) name) = .ok name := by
  rw [Expr.path, fieldPath_foldl, Text.intercalate_dotted]

lemma isAccess_foldl (names : List String) {e : Expr} (h : isAccess e = true) :
    isAccess (names.foldl .member e) = true := by
  induction names generalizing e with
  | nil => exact h
  | cons name names ih => exact ih rfl

lemma isAccess_path (p : Param) (name : String) : isAccess (.path (.param p) name) = true := by
  rw [Expr.path, Text.dotted]
  cases h : Text.splitDots name.toList with
  | nil => exact absurd h (Text.splitDots_ne_nil _)
  | cons part parts => exact isAccess_foldl (parts.map String.ofList) rfl

/-! ## Leaves -/

/-- The comparison of a field with a constant. -/
def comparing (op : CompareOp) (p : Param) (name : String) (d : Datum) : Expr :=
  .compare op (.path (.param p) name) (.const d)

section Leaves

variable (options : Options) (op : CompareOp) (p : Param) {name : String} (d : Datum)

/-- A comparison of a field becomes the test of that field. -/
lemma ofLambda_comparing (name : String) :
    Filter.ofLambda options ⟨.param p, comparing op p name d⟩ =
      match fieldTest (options.shared (comparing op p name d)) op d with
      | .ok test => .ok (.field name test)
      | .error f => .error (.fault f) := by
  rw [Filter.ofLambda]
  generalize options.shared _ = shared
  simp only [comparing, filterOf, comparison, isAccess_path, Expr.asConstant?, fieldPath_path]
  cases fieldTest shared op d <;> rfl

/-- The document of a comparison has the written test beside the field. -/
lemma documentOf_compareField (named : name ≠ "") (n : Nat) :
    (documentOf options (Spec.compareField op (.str name) d)).run n =
      match fieldTest (options.shared (comparing op ⟨n, Param.defaultName⟩ name d)) op d with
      | .ok test => .ok (.map [(.str name, test.document)], n + 1)
      | .error f => .error (.fault f) := by
  have hleaf : (Spec.compareField op (.str name) d).run n =
      .ok (.tree ⟨.param ⟨n, Param.defaultName⟩, comparing op ⟨n, Param.defaultName⟩ name d⟩, n + 1) :=
    Spec.onField_run named _ n
  have htranslated := ofLambda_comparing options op ⟨n, Param.defaultName⟩ d name
  rw [documentOf, StateT.run_bind, hleaf]
  show ((liftM (Filter.ofLambda options _) >>= fun f => pure f.document : Build Value)).run (n + 1) = _
  rw [htranslated]
  cases fieldTest _ op d <;> rfl

end Leaves

/-- The leaves that test a field for something else than equality with a constant. -/
inductive OtherTest (field : Value) : Build Spec → Prop
  | comparison {op : CompareOp} (other : op ≠ .eq ∧ op ≠ .same) (d : Datum) :
      OtherTest field (Spec.compareField op field d)
  | collection (d : Datum) : OtherTest field (Spec.oneOf field d)

lemma documentOf_other {options : Options} {op : CompareOp} {name : String} {d : Datum}
    (other : op ≠ .eq ∧ op ≠ .same) (named : name ≠ "") {n n' : Nat} {document : Value}
    (written : (documentOf options (Spec.compareField op (.str name) d)).run n =
      .ok (document, n')) :
    ∃ v, document = .map [(.str name, v)] ∧ IsOperators v := by
  rw [documentOf_compareField options op d named] at written
  split at written
  next test htest =>
    cases written
    exact ⟨_, rfl, fieldTest_operators other htest⟩
  next => cases written

/-- The document of any other test of a field has operators beside the field. -/
lemma OtherTest.document {options : Options} {name : String} (named : name ≠ "") {leaf : Build Spec}
    (h : OtherTest (.str name) leaf) {n n' : Nat} {document : Value}
    (written : (documentOf options leaf).run n = .ok (document, n')) :
    ∃ v, document = .map [(.str name, v)] ∧ IsOperators v := by
  cases h with
  | comparison other d => exact documentOf_other other named written
  | collection d =>
      rw [Spec.oneOf] at written
      cases hitems : d.iterate with
      | error f =>
          rw [hitems] at written
          cases written
      | ok items =>
          rw [hitems] at written
          exact documentOf_other (by decide) named written

/-- **Equality and operators.**  Whatever the options, the document of an equality with a constant has
the constant itself beside the field.  A store reads it as that equality exactly if the constant is not
written like an operator expression, and then no other test of the field has an equal document,
whatever its constant and options. -/
theorem documentOf_eq (options : Options) {name : String} (named : name ≠ "") (d : Datum) (n : Nat) :
    ∃ document, (documentOf options (Spec.compareField .eq (.str name) d)).run n =
        .ok (document, n + 1) ∧
      document = .map [(.str name, d.value)] ∧
      (reading document = some (name, .equality d.value) ↔ isOperatorExpression d.value = false) ∧
      (isOperatorExpression d.value = false → ∀ {options' leaf m m' document'},
        OtherTest (.str name) leaf → (documentOf options' leaf).run m = .ok (document', m') →
        document ≠ document' ∧ document.eq document' = false) := by
  refine ⟨_, documentOf_compareField options .eq d named n, rfl, ?_, ?_⟩
  · cases h : isOperatorExpression d.value <;> simp [reading, FieldTest.document, h]
  · intro plain options' leaf m m' document' other written
    obtain ⟨v, rfl, hv⟩ := other.document named written
    constructor
    · intro heq
      have hvalue : d.value = v := by simpa [FieldTest.document] using heq
      rw [hvalue, hv.isOperatorExpression] at plain
      cases plain
    · have hvalue : d.value.eq v = false := eq_operators plain hv
      simp [Value.eq, Value.mapping?, Value.within, FieldTest.document, hvalue]

/-- A mapping with a plain key is a value like any other, and differs from every test of the field. -/
theorem documentOf_eq_nested :
    "address" ≠ "" ∧ isOperatorExpression (.map [(.str "city", .str "Paris")]) = false ∧
      ∃ document, (documentOf .default (Spec.compareField .eq (.str "address")
          ⟨.map [(.str "city", .str "Paris")], ⟨1, []⟩⟩)).run 2 = .ok (document, 3) ∧
        reading document =
          some ("address", .equality (.map [(.str "city", .str "Paris")])) ∧
        document ≠ .map [(.str "address", .map [(.str "$ne", .none)])] := by
  have named : "address" ≠ "" := by decide
  have plain : isOperatorExpression (.map [(.str "city", .str "Paris")]) = false := by decide
  have other : OtherTest (.str "address") (Spec.nullField .notSame (.str "address")) :=
    .comparison (by decide) _
  obtain ⟨document, hrun, -, hreading, hother⟩ :=
    documentOf_eq .default named ⟨.map [(.str "city", .str "Paris")], ⟨1, []⟩⟩ 2
  have written : (documentOf .default (Spec.nullField .notSame (.str "address"))).run 2 =
      .ok (.map [(.str "address", .map [(.str "$ne", .none)])], 3) := rfl
  exact ⟨named, plain, document, hrun, hreading.mpr plain, (hother plain other written).1⟩

/-- **A value that is written like an operator is read as one**: the equality with the value, given
directly or in a mapping of fields to values, has the document of the comparison. -/
theorem documentOf_eq_operators :
    ∃ document, (documentOf .default (Spec.compareField .eq (.str "age")
        ⟨.map [(.str "$gt", .int 18)], ⟨1, []⟩⟩)).run 2 = .ok (document, 3) ∧
      (documentOf .default (Spec.ofMapping
        ⟨.map [(.str "age", .map [(.str "$gt", .int 18)])], ⟨1, []⟩⟩)).run 2 = .ok (document, 3) ∧
      (documentOf .default (Spec.compareField .gt (.str "age") ⟨.int 18, ⟨1, []⟩⟩)).run 2 =
        .ok (document, 3) ∧
      reading document = some ("age", .operators (.map [(.str "$gt", .int 18)])) :=
  ⟨.map [(.str "age", .map [(.str "$gt", .int 18)])], rfl, rfl, rfl, rfl⟩

end Criteria.Mongo
