import Criteria.Proofs.Like.Search
import Criteria.Proofs.Mongo.Equality
import Criteria.Proofs.Spec.Composition

/-!
# Patterns as searches

A comparison of a field with a pattern is written as a search by a regular expression.  Evaluation fits
the pattern to the whole text of the field; a store searches the text, and all that holds the search
to its ends are the anchors.

* `searchOf`, `Searches` — how a store reads a search, and the texts in which it finds something.
* `Item.follow` — what an entity has in a field.
* `call_comparing` — evaluating the comparison of a field with a constant.
* **`documentOf_like`** — the search finds what the pattern fits, and the same with a line break behind
  it.  So the store and evaluation agree exactly on the texts for which this is no difference.
* `documentOf_like_lineBreak` — a text with a line break at its end for which it is one.
-/

namespace Criteria

/-! ## Fields of an entity -/

/-- What is read from an item along a dotted path. -/
def Item.follow (props : EvaluationProperties) (path : String) (i : Item) : Except Fault Item :=
  (Text.dotted path).foldlM (fun j name => props.read name j) i

namespace Expr

variable {props : EvaluationProperties} {frame : Frame}

/-- Nested accesses read one member after the other. -/
lemma value_foldl (names : List String) (e : Expr) :
    (names.foldl member e).value props frame =
      e.value props frame >>= names.foldlM (fun j name => props.read name j) := by
  induction names generalizing e with
  | nil => simp
  | cons name names ih =>
      rw [List.foldl_cons, ih, value]
      cases e.value props frame <;> rfl

lemma isQuiet_path (p : Param) (path : String) : (Expr.path (param p) path).isQuiet = true :=
  Mongo.isQuiet_of_fieldPath (Mongo.fieldPath_path p path)

/-- The accessed field of a parameter is the field of the item for which the parameter stands. -/
lemma value_path (p : Param) (path : String) (i : Item) :
    (Expr.path (param p) path).value props [(p, i)] = i.follow props path := by
  rw [Expr.path, value_foldl, value, List.lookup_cons_self]
  rfl

end Expr

/-- Comparing a field with a constant only reads the field and compares. -/
lemma Compiled.call_comparing (props : EvaluationProperties) (op : CompareOp) (p : Param)
    (path : String) (d : Datum) (host : Host) (entity : Item) (w : World) :
    (call ⟨props, .param p, Mongo.comparing op p path d⟩ host entity).run w =
      ((do
        let i ← entity.follow props path
        return Item.ofBool (← op.holds i (.datum d))), w) := by
  have quiet : (Mongo.comparing op p path d).isQuiet = true := by
    simp [Mongo.comparing, Expr.isQuiet, Expr.isQuiet_path]
  have hfield : (Expr.path (.param p) path).value props (Evaluator.bind (.param p) entity []) =
      entity.follow props path := Expr.value_path p path entity
  rw [call_quiet quiet, Mongo.comparing, Expr.value, hfield]
  rfl

namespace Mongo

/-! ## Searches -/

/-- How a store reads a search: whether a point stands for line breaks too, and the expression.  Of the
flags only that one is read here. -/
def searchOf : Value → Option (Bool × String)
  | .map [(.str "$regex", .str re)] => some (false, re)
  | .map [(.str "$regex", .str re), (.str "$options", .str "s")] => some (true, re)
  | _ => none

/-- Whether a store that is given the search finds something in the text. -/
def Searches (document : Value) (text : String) : Prop :=
  ∃ breaks re, searchOf document = some (breaks, re) ∧ Like.Contains breaks re text

open Like (Matches)

/-- The search that is written for a pattern. -/
lemma fieldTest_like (body : Expr) (pattern : String) (o : Origin) :
    fieldTest (Options.default.shared body) .like ⟨.str pattern, o⟩ =
      .ok (.matching ("^" ++ Like.regex pattern ++ "$") (.str "s")) := by
  have hshared : Options.default.shared body = Options.default := rfl
  have hflags : Options.default.withLineBreaks = .ok (.str "s") := rfl
  rw [hshared, fieldTest, hflags]
  rfl

/-- The search for a pattern finds what the pattern fits, and the same with a line break behind it. -/
lemma searches_like (pattern text : String) :
    Searches (FieldTest.matching ("^" ++ Like.regex pattern ++ "$") (.str "s")).document text ↔
      Matches pattern.toList text.toList ∨
        ∃ line : String, text = line ++ "\n" ∧ Matches pattern.toList line.toList := by
  rw [← Like.contains_anchored_iff]
  constructor
  · rintro ⟨breaks, re, hread, h⟩
    cases hread
    exact h
  · intro h
    exact ⟨true, _, rfl, h⟩

/-- The leaf that compares a field with a constant compiles to that comparison. -/
lemma compile_compareField (op : CompareOp) {name : String} (named : name ≠ "") (d : Datum) (n : Nat)
    (props : EvaluationProperties) :
    ∃ s, (Spec.compareField op (.str name) d).run n = .ok (s, n + 1) ∧
      (s.compile props).run (n + 1) = .ok (⟨s, props, .param ⟨n, Param.defaultName⟩,
        comparing op ⟨n, Param.defaultName⟩ name d⟩, n + 1) := by
  have hleaf := Spec.onField_run named (fun m => .compare op m (.const d)) n
  have hcheck : Expr.check [⟨n, Param.defaultName⟩] (comparing op ⟨n, Param.defaultName⟩ name d) =
      .ok () := Expr.check_pair.mpr ⟨Expr.check_path _ name, rfl⟩
  have hcompile := Build.run_lift_ok (n := n + 1) (Lambda.compile_of_check hcheck props)
  refine ⟨_, hleaf, ?_⟩
  rw [Spec.compile, Spec.toLambda, pure_bind]
  exact Build.run_bind_ok hcompile

/-- **Patterns in a store and in memory.**  The leaf that compares a field with a pattern compiles and
has a document.  On an entity that has a text in the field, the compiled leaf decides whether the
pattern fits the text.  The search in the document also finds a text that the pattern fits up to a line
break behind it.  So the two agree exactly on the texts for which this line break makes no difference
to the pattern. -/
theorem documentOf_like {name : String} (named : name ≠ "") (pattern : String) (o : Origin) (n : Nat)
    (props : EvaluationProperties) :
    ∃ search s c, (Spec.compareField .like (.str name) ⟨.str pattern, o⟩).run n = .ok (s, n + 1) ∧
      (s.compile props).run (n + 1) = .ok (c, n + 1) ∧
      (documentOf .default (Spec.compareField .like (.str name) ⟨.str pattern, o⟩)).run n =
        .ok (.map [(.str name, search)], n + 1) ∧
      ∀ (entity : Item) (text : String) (o' : Origin),
        entity.follow props name = .ok (.datum ⟨.str text, o'⟩) →
        ∃ holds : Bool,
          (∀ (host : Host) (w : World),
            (c.predicate.call host entity).run w = (.ok (.ofBool holds), w)) ∧
          (holds = true ↔ Matches pattern.toList text.toList) ∧
          (Searches search text ↔ Matches pattern.toList text.toList ∨
            ∃ line : String, text = line ++ "\n" ∧ Matches pattern.toList line.toList) ∧
          ((Searches search text ↔ holds = true) ↔
            ∀ line : String, text = line ++ "\n" → Matches pattern.toList line.toList →
              Matches pattern.toList text.toList) := by
  have hwritten := documentOf_compareField .default .like ⟨.str pattern, o⟩ named n
  rw [fieldTest_like] at hwritten
  obtain ⟨s, hleaf, hcompile⟩ := compile_compareField .like named ⟨.str pattern, o⟩ n props
  refine ⟨_, s, _, hleaf, hcompile, hwritten, fun entity text o' hfield => ?_⟩
  have hfits := Like.fits_iff pattern text
  refine ⟨Like.fits pattern text, fun host w => ?_, hfits, searches_like pattern text, ?_⟩
  · rw [Compiled.call_comparing, hfield]
    rfl
  · rw [searches_like, hfits]
    constructor
    · intro agree line htext hline
      exact agree.mp (.inr ⟨line, htext, hline⟩)
    · rintro harmless
      constructor
      · rintro (htext | ⟨line, htext, hline⟩)
        · exact htext
        · exact harmless line htext hline
      · exact .inl

/-- A pattern that ends in a run of characters fits a text with or without the line break at its
end. -/
theorem documentOf_like_run :
    "author.bio" ≠ "" ∧
      Item.follow .default "author.bio"
        (.datum ⟨.map [(.str "author", .record [("bio", .str "a.b\n")])], ⟨1, []⟩⟩) =
          .ok (.datum ⟨.str "a.b\n", ⟨1, [0, 1]⟩⟩) ∧
      ∃ search, (documentOf .default (Spec.compareField .like (.str "author.bio")
          ⟨.str "_.%", ⟨2, []⟩⟩)).run 3 = .ok (.map [(.str "author.bio", search)], 4) ∧
        Searches search "a.b\n" ∧ Matches "_.%".toList "a.b\n".toList := by
  have named : "author.bio" ≠ "" := by decide
  have hfield : Item.follow .default "author.bio"
      (.datum ⟨.map [(.str "author", .record [("bio", .str "a.b\n")])], ⟨1, []⟩⟩) =
        .ok (.datum ⟨.str "a.b\n", ⟨1, [0, 1]⟩⟩) := rfl
  obtain ⟨search, _, _, -, -, hwritten, hagree⟩ :=
    documentOf_like named "_.%" ⟨2, []⟩ 3 .default
  obtain ⟨_, -, -, hsearches, -⟩ := hagree _ "a.b\n" _ hfield
  have hmatches : Matches "_.%".toList "a.b\n".toList :=
    .one 'a' (.plain (by decide) (by decide) (by decide) (.run ['b', '\n'] .nil))
  exact ⟨named, hfield, search, hwritten, hsearches.mpr (.inl hmatches), hmatches⟩

/-- **A line break at the end is overlooked.**  The pattern `a` does not fit the text, and evaluation
says so, but the search for it finds the text. -/
theorem documentOf_like_lineBreak :
    ∃ search, (documentOf .default (Spec.compareField .like (.str "name")
        ⟨.str "a", ⟨2, []⟩⟩)).run 3 = .ok (.map [(.str "name", search)], 4) ∧
      search = .map [(.str "$regex", .str "^a$"), (.str "$options", .str "s")] ∧
      Searches search "a\n" ∧
      (Compiled.call ⟨.default, .param ⟨3, Param.defaultName⟩,
        comparing .like ⟨3, Param.defaultName⟩ "name" ⟨.str "a", ⟨2, []⟩⟩⟩ Standard.host
        (.datum ⟨.map [(.str "name", .str "a\n")], ⟨1, []⟩⟩)).run ⟨[], 4⟩ =
          (.ok (.ofBool false), ⟨[], 4⟩) := by
  have hwritten : (documentOf .default (Spec.compareField .like (.str "name")
      ⟨.str "a", ⟨2, []⟩⟩)).run 3 =
        .ok (.map [(.str "name", (FieldTest.matching ("^" ++ Like.regex "a" ++ "$")
          (.str "s")).document)], 4) := rfl
  have hmatches : Matches "a".toList "a".toList :=
    .plain (by decide) (by decide) (by decide) .nil
  refine ⟨_, hwritten, rfl, (searches_like "a" "a\n").mpr (.inr ⟨"a", rfl, hmatches⟩), rfl⟩

end Mongo

end Criteria
