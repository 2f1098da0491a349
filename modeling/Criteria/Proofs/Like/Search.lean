import Criteria.Proofs.Like.Matching

/-!
# Searching for a pattern

A store does not fit a regular expression to the whole of a text.  It looks for a place where the
expression fits and leaves the ends of the text to anchors in it.

* `Finds` — the meaning of an expression with anchors, at one place of a text.
* `Contains` — there is such a place.
* `finds_parts_iff` — the expression for the parts of a pattern, whatever follows it, takes off the
  text exactly what the parts fit.
* **`contains_anchored_iff`** — between anchors, the expression for a pattern finds what the pattern
  fits, and the same with a line break behind it.
-/

namespace Criteria.Like

/-- The places of a text at which a regular expression fits: `before` has been read and `after` is
still to come.  A point stands for a line break only if `breaks` is set. -/
inductive Finds (breaks : Bool) : List Char → List Char → List Char → Prop where
  /-- An expression need not reach the end of the text. -/
  | nil {before after : List Char} : Finds breaks [] before after
  /-- A circumflex stands for the start of the text. -/
  | start {re after : List Char} : Finds breaks re [] after → Finds breaks ('^' :: re) [] after
  /-- A dollar sign stands for the end of the text, and for the place before a final line break. -/
  | finish {re before after : List Char} : after = [] ∨ after = ['\n'] →
      Finds breaks re before after → Finds breaks ('$' :: re) before after
  | anyRun {re before after : List Char} (skipped : List Char) :
      (∀ c ∈ skipped, breaks = true ∨ c ≠ '\n') → Finds breaks re (before ++ skipped) after →
      Finds breaks ('.' :: '*' :: re) before (skipped ++ after)
  | anyOne {re before after : List Char} (c : Char) : breaks = true ∨ c ≠ '\n' → Unrepeated re →
      Finds breaks re (before ++ [c]) after → Finds breaks ('.' :: re) before (c :: after)
  | escaped {re before after : List Char} (c : Char) : isSpecial c = true → Unrepeated re →
      Finds breaks re (before ++ [c]) after → Finds breaks ('\\' :: c :: re) before (c :: after)
  | plain {re before after : List Char} (c : Char) : isSpecial c = false → Unrepeated re →
      Finds breaks re (before ++ [c]) after → Finds breaks (c :: re) before (c :: after)

/-- Whether the expression fits somewhere in the text. -/
def Contains (breaks : Bool) (re text : String) : Prop :=
  ∃ before after, text.toList = before ++ after ∧ Finds breaks re.toList before after

section Inversion

variable {breaks : Bool} {re before after : List Char}

/-- A character with a meaning is read as what it means. -/
private lemma not_plain {c : Char} (hspecial : isSpecial c = true) : isSpecial c ≠ false := by
  simp [hspecial]

lemma finds_start_iff :
    Finds breaks ('^' :: re) before after ↔ before = [] ∧ Finds breaks re [] after := by
  constructor
  · intro h
    cases h with
    | start h => exact ⟨rfl, h⟩
    | plain _ hplain => exact absurd hplain (not_plain (by decide))
  · rintro ⟨rfl, h⟩
    exact .start h

lemma finds_finish_iff : Finds breaks ['$'] before after ↔ after = [] ∨ after = ['\n'] := by
  constructor
  · intro h
    cases h with
    | finish hend _ => exact hend
    | plain _ hplain => exact absurd hplain (not_plain (by decide))
  · intro hend
    exact .finish hend .nil

lemma finds_run_iff : Finds true ('.' :: '*' :: re) before after ↔
    ∃ skipped rest, after = skipped ++ rest ∧ Finds true re (before ++ skipped) rest := by
  constructor
  · intro h
    cases h with
    | anyRun skipped _ h => exact ⟨skipped, _, rfl, h⟩
    | anyOne _ _ halone => exact absurd rfl halone
    | plain _ hplain => exact absurd hplain (not_plain (by decide))
  · rintro ⟨skipped, rest, rfl, h⟩
    exact .anyRun skipped (fun _ _ => .inl rfl) h

lemma finds_point_iff (alone : Unrepeated re) : Finds true ('.' :: re) before after ↔
    ∃ c rest, after = c :: rest ∧ Finds true re (before ++ [c]) rest := by
  constructor
  · intro h
    cases h with
    | anyRun => exact absurd rfl alone
    | anyOne c _ _ h => exact ⟨c, _, rfl, h⟩
    | plain _ hplain => exact absurd hplain (not_plain (by decide))
  · rintro ⟨c, rest, rfl, h⟩
    exact .anyOne c (.inl rfl) alone h

/-- Written so that it stands for itself, a character is read as itself. -/
lemma finds_escapeChar_iff (c : Char) (alone : Unrepeated re) :
    Finds breaks (escapeChar c ++ re) before after ↔
      ∃ rest, after = c :: rest ∧ Finds breaks re (before ++ [c]) rest := by
  rw [escapeChar]
  split_ifs with hspecial
  · constructor
    · intro h
      cases h with
      | escaped _ _ _ h => exact ⟨_, rfl, h⟩
      | plain _ hplain => exact absurd hplain (not_plain (by decide))
    · rintro ⟨rest, rfl, h⟩
      exact .escaped c hspecial alone h
  · rw [List.singleton_append]
    constructor
    · intro h
      cases h with
      | start | finish | anyRun | anyOne | escaped => exact absurd (by decide) hspecial
      | plain _ _ _ h => exact ⟨_, rfl, h⟩
    · rintro ⟨rest, rfl, h⟩
      exact .plain c (by simpa using hspecial) alone h

end Inversion

/-- No star follows the expression for a part. -/
lemma unrepeated_append (ts : List Token) {re : List Char} (alone : Unrepeated re) :
    Unrepeated (ts.flatMap Token.regex ++ re) := by
  have hparts := unrepeated_regex ts
  cases h : ts.flatMap Token.regex with
  | nil => exact alone
  | cons c cs => simpa [Unrepeated, h] using hparts

/-- **The expression for the parts of a pattern takes off the text what the parts fit.**  What follows
it is then looked for behind that. -/
theorem finds_parts_iff {re : List Char} (alone : Unrepeated re) (ts : List Token)
    (before after : List Char) :
    Finds true (ts.flatMap Token.regex ++ re) before after ↔
      ∃ fitted rest, after = fitted ++ rest ∧ Token.Fits ts fitted ∧
        Finds true re (before ++ fitted) rest := by
  induction ts generalizing before after with
  | nil =>
      constructor
      · intro h
        exact ⟨[], after, rfl, .nil, by simpa using h⟩
      · rintro ⟨fitted, rest, rfl, hfits, h⟩
        cases hfits
        simpa using h
  | cons t ts ih =>
      have hnext := unrepeated_append ts alone
      rw [List.flatMap_cons, List.append_assoc]
      cases t with
      | anyRun =>
          rw [Token.regex, List.cons_append, List.cons_append, List.nil_append, finds_run_iff]
          constructor
          · rintro ⟨skipped, _, rfl, h⟩
            obtain ⟨fitted, rest, rfl, hfits, h⟩ := (ih _ _).mp h
            refine ⟨skipped ++ fitted, rest, ?_, .anyRun skipped hfits, ?_⟩
            · simp
            · simpa using h
          · rintro ⟨_, rest, rfl, hfits, h⟩
            cases hfits with
            | @anyRun _ fitted skipped hfits =>
                refine ⟨skipped, fitted ++ rest, by simp, (ih _ _).mpr ?_⟩
                exact ⟨fitted, rest, rfl, hfits, by simpa using h⟩
      | anyOne =>
          rw [Token.regex, List.singleton_append, finds_point_iff hnext]
          constructor
          · rintro ⟨c, _, rfl, h⟩
            obtain ⟨fitted, rest, rfl, hfits, h⟩ := (ih _ _).mp h
            exact ⟨c :: fitted, rest, rfl, .anyOne c hfits, by simpa using h⟩
          · rintro ⟨_, rest, rfl, hfits, h⟩
            cases hfits with
            | @anyOne _ fitted c hfits =>
                refine ⟨c, fitted ++ rest, rfl, (ih _ _).mpr ?_⟩
                exact ⟨fitted, rest, rfl, hfits, by simpa using h⟩
      | literal c =>
          rw [Token.regex, finds_escapeChar_iff c hnext]
          constructor
          · rintro ⟨_, rfl, h⟩
            obtain ⟨fitted, rest, rfl, hfits, h⟩ := (ih _ _).mp h
            exact ⟨c :: fitted, rest, rfl, .literal c hfits, by simpa using h⟩
          · rintro ⟨_, rest, rfl, hfits, h⟩
            obtain ⟨fitted, rfl, htail⟩ := fits_literal_iff.mp hfits
            refine ⟨fitted ++ rest, rfl, (ih _ _).mpr ?_⟩
            exact ⟨fitted, rest, rfl, htail, by simpa using h⟩

/-- **Between anchors.**  The expression for a pattern finds the texts that the pattern fits, and those
that consist of such a text and a line break. -/
theorem contains_anchored_iff (pattern text : String) :
    Contains true ("^" ++ regex pattern ++ "$") text ↔
      Matches pattern.toList text.toList ∨
        ∃ line : String, text = line ++ "\n" ∧ Matches pattern.toList line.toList := by
  have hre : ("^" ++ regex pattern ++ "$").toList =
      '^' :: ((tokens pattern).flatMap Token.regex ++ ['$']) := by
    simp [regex]
  have hfits : ∀ fitted, Token.Fits (tokens pattern) fitted ↔ Matches pattern.toList fitted :=
    (fits_tokens_iff pattern.toList).1
  have alone : Unrepeated ['$'] := by simp [Unrepeated]
  simp only [Contains, hre, finds_start_iff, finds_parts_iff alone, finds_finish_iff, hfits]
  constructor
  · rintro ⟨_, _, htext, rfl, fitted, rest, rfl, hmatches, rfl | rfl⟩
    · left
      simpa [htext] using hmatches
    · right
      refine ⟨String.ofList fitted, ?_, by simpa using hmatches⟩
      rw [← String.toList_inj, htext]
      simp
  · rintro (hmatches | ⟨line, rfl, hmatches⟩)
    · exact ⟨[], text.toList, rfl, rfl, text.toList, [], by simp, hmatches, .inl rfl⟩
    · exact ⟨[], line.toList ++ ['\n'], by simp, rfl, line.toList, ['\n'], rfl, hmatches, .inr rfl⟩

end Criteria.Like
