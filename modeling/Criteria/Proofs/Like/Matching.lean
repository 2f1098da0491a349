import Criteria.Eval.Standard
import Criteria.Proofs.Eval.Quiet
import Mathlib.Tactic.Lemma

/-!
# What a pattern fits

`Like.fits` splits a pattern into parts and tries them on a text.  Here it is compared with two
readings that say nothing about how the test is carried out.

* `Matches` — the meaning of a pattern, read character by character.
* `Token.Fits` — the meaning of a pattern that has been split into parts.  `matchAll_iff` says that
  the test finds a way to fit the parts whenever there is one, and `fits_tokens_iff` that splitting
  keeps the meaning, wherever escapes stand.
* `FullMatch` — the meaning of a regular expression in which every character stands for itself, with
  an escape if it has to, and a point for any character or, with a star, for any run.
  `fullMatch_regex_iff` says that the expression for a pattern is read back part by part: no escaped
  character turns into a wildcard, and no point meets the star of the next part.
* **`eval_like`** — evaluating a pattern comparison decides both.
-/

namespace Criteria.Like

/-! ## The meaning of a pattern -/

/-- The texts that a pattern fits. -/
inductive Matches : List Char → List Char → Prop where
  | nil : Matches [] []
  /-- A percent sign stands for any run of characters, even none. -/
  | run {ps text : List Char} (skipped : List Char) :
      Matches ps text → Matches ('%' :: ps) (skipped ++ text)
  /-- An underscore stands for any one character. -/
  | one {ps text : List Char} (c : Char) : Matches ps text → Matches ('_' :: ps) (c :: text)
  /-- After a backslash every character stands for itself. -/
  | escaped {ps text : List Char} (c : Char) :
      Matches ps text → Matches ('\\' :: c :: ps) (c :: text)
  /-- A backslash with nothing after it stands for itself. -/
  | dangling : Matches ['\\'] ['\\']
  | plain {c : Char} {ps text : List Char} : c ≠ '%' → c ≠ '_' → c ≠ '\\' →
      Matches ps text → Matches (c :: ps) (c :: text)

/-- The texts that the parts of a pattern fit. -/
inductive Token.Fits : List Token → List Char → Prop where
  | nil : Fits [] []
  | anyRun {ts : List Token} {text : List Char} (skipped : List Char) :
      Fits ts text → Fits (.anyRun :: ts) (skipped ++ text)
  | anyOne {ts : List Token} {text : List Char} (c : Char) :
      Fits ts text → Fits (.anyOne :: ts) (c :: text)
  | literal {ts : List Token} {text : List Char} (c : Char) :
      Fits ts text → Fits (.literal c :: ts) (c :: text)

/-! ## Trying the parts -/

lemma anySuffix_iff (p : List Char → Bool) (text : List Char) :
    anySuffix p text = true ↔ ∃ skipped rest, text = skipped ++ rest ∧ p rest = true := by
  induction text with
  | nil =>
      constructor
      · intro h
        exact ⟨[], [], rfl, h⟩
      · rintro ⟨skipped, rest, hsplit, h⟩
        obtain ⟨rfl, rfl⟩ := List.append_eq_nil_iff.mp hsplit.symm
        exact h
  | cons c text ih =>
      rw [anySuffix, Bool.or_eq_true, ih]
      constructor
      · rintro (h | ⟨skipped, rest, rfl, h⟩)
        · exact ⟨[], c :: text, rfl, h⟩
        · exact ⟨c :: skipped, rest, rfl, h⟩
      · rintro ⟨_ | ⟨d, skipped⟩, rest, hsplit, h⟩
        · left
          rw [hsplit]
          exact h
        · right
          simp only [List.cons_append, List.cons.injEq] at hsplit
          exact ⟨skipped, rest, hsplit.2, h⟩

/-- **The test is complete.**  It finds a way to fit the parts whenever there is one. -/
theorem matchAll_iff (ts : List Token) (text : List Char) :
    Token.matchAll ts text = true ↔ Token.Fits ts text := by
  induction ts generalizing text with
  | nil =>
      rw [Token.matchAll, List.isEmpty_iff]
      constructor
      · rintro rfl
        exact .nil
      · intro h
        cases h
        rfl
  | cons t ts ih =>
      cases t with
      | anyRun =>
          rw [Token.matchAll, anySuffix_iff]
          constructor
          · rintro ⟨skipped, rest, rfl, h⟩
            exact .anyRun skipped ((ih rest).mp h)
          · intro h
            cases h with
            | anyRun skipped h => exact ⟨skipped, _, rfl, (ih _).mpr h⟩
      | anyOne =>
          cases text with
          | nil => exact ⟨fun h => (nomatch h), fun h => (nomatch h)⟩
          | cons c text =>
              rw [Token.matchAll, ih]
              constructor
              · intro h
                exact .anyOne c h
              · intro h
                cases h with
                | anyOne _ h => exact h
      | literal d =>
          cases text with
          | nil => exact ⟨fun h => (nomatch h), fun h => (nomatch h)⟩
          | cons c text =>
              rw [Token.matchAll, Bool.and_eq_true, beq_iff_eq, ih]
              constructor
              · rintro ⟨rfl, h⟩
                exact .literal d h
              · intro h
                cases h with
                | literal _ h => exact ⟨rfl, h⟩

/-! ## Splitting a pattern -/

section Inversion

variable {c : Char} {ps text : List Char}

lemma fits_literal_iff {ts : List Token} :
    Token.Fits (.literal c :: ts) text ↔ ∃ rest, text = c :: rest ∧ Token.Fits ts rest := by
  constructor
  · intro h
    cases h with
    | literal _ h => exact ⟨_, rfl, h⟩
  · rintro ⟨rest, rfl, h⟩
    exact .literal c h

lemma matches_escaped_iff :
    Matches ('\\' :: c :: ps) text ↔ ∃ rest, text = c :: rest ∧ Matches ps rest := by
  constructor
  · intro h
    cases h with
    | escaped _ h => exact ⟨_, rfl, h⟩
    | plain _ _ hne => exact absurd rfl hne
  · rintro ⟨rest, rfl, h⟩
    exact .escaped c h

lemma matches_dangling_iff : Matches ['\\'] text ↔ text = ['\\'] := by
  constructor
  · intro h
    cases h with
    | dangling => rfl
    | plain _ _ hne => exact absurd rfl hne
  · rintro rfl
    exact .dangling

lemma matches_plain_iff (hrun : c ≠ '%') (hone : c ≠ '_') (hescape : c ≠ '\\') :
    Matches (c :: ps) text ↔ ∃ rest, text = c :: rest ∧ Matches ps rest := by
  constructor
  · intro h
    cases h with
    | run => exact absurd rfl hrun
    | one => exact absurd rfl hone
    | escaped | dangling => exact absurd rfl hescape
    | plain _ _ _ h => exact ⟨_, rfl, h⟩
  · rintro ⟨rest, rfl, h⟩
    exact .plain hrun hone hescape h

end Inversion

/-- **Splitting keeps the meaning.**  By induction on the pattern, for both states of the splitter at
once: after an unpaired backslash the rest means what it means behind that backslash. -/
theorem fits_tokens_iff (ps : List Char) :
    (∀ text, Token.Fits (tokensFrom false ps) text ↔ Matches ps text) ∧
      ∀ text, Token.Fits (tokensFrom true ps) text ↔ Matches ('\\' :: ps) text := by
  induction ps with
  | nil =>
      constructor
      · intro text
        constructor
        · intro h
          cases h
          exact .nil
        · intro h
          cases h
          exact .nil
      · intro text
        have hparts : tokensFrom true [] = [.literal '\\'] := rfl
        rw [hparts, fits_literal_iff, matches_dangling_iff]
        constructor
        · rintro ⟨rest, rfl, h⟩
          cases h
          rfl
        · rintro rfl
          exact ⟨[], rfl, .nil⟩
  | cons c ps ih =>
      obtain ⟨ihPlain, ihEscaped⟩ := ih
      constructor
      · intro text
        rw [tokensFrom, if_neg Bool.false_ne_true]
        split_ifs with hescape hrun hone
        · rw [hescape]
          exact ihEscaped text
        · subst hrun
          constructor
          · intro h
            cases h with
            | anyRun skipped h => exact .run skipped ((ihPlain _).mp h)
          · intro h
            cases h with
            | run skipped h => exact .anyRun skipped ((ihPlain _).mpr h)
            | plain hne => exact absurd rfl hne
        · subst hone
          constructor
          · intro h
            cases h with
            | anyOne d h => exact .one d ((ihPlain _).mp h)
          · intro h
            cases h with
            | one d h => exact .anyOne d ((ihPlain _).mpr h)
            | plain _ hne => exact absurd rfl hne
        · simp only [fits_literal_iff, matches_plain_iff hrun hone hescape, ihPlain]
      · intro text
        rw [tokensFrom, if_pos rfl]
        simp only [fits_literal_iff, matches_escaped_iff, ihPlain]

/-- **The test decides the meaning of the pattern.** -/
theorem fits_iff (pattern text : String) :
    fits pattern text = true ↔ Matches pattern.toList text.toList := by
  rw [fits, matchAll_iff, tokens, (fits_tokens_iff pattern.toList).1]

/-! ## The regular expression -/

/-- Whether an atom of a regular expression stands alone: what follows is no star. -/
def Unrepeated (re : List Char) : Prop := re.head? ≠ some '*'

/-- The texts that a regular expression fits from end to end, where a point stands for every
character, line breaks included. -/
inductive FullMatch : List Char → List Char → Prop where
  | nil : FullMatch [] []
  /-- A point and a star stand for any run of characters. -/
  | anyRun {re text : List Char} (skipped : List Char) :
      FullMatch re text → FullMatch ('.' :: '*' :: re) (skipped ++ text)
  /-- A point stands for any one character. -/
  | anyOne {re text : List Char} (c : Char) : Unrepeated re →
      FullMatch re text → FullMatch ('.' :: re) (c :: text)
  /-- A character with a meaning stands for itself after a backslash. -/
  | escaped {re text : List Char} (c : Char) : isSpecial c = true → Unrepeated re →
      FullMatch re text → FullMatch ('\\' :: c :: re) (c :: text)
  /-- A character without one stands for itself. -/
  | plain {re text : List Char} (c : Char) : isSpecial c = false → Unrepeated re →
      FullMatch re text → FullMatch (c :: re) (c :: text)

/-- The expression for a sequence of parts never begins with a star, so no part repeats the one
before it. -/
lemma unrepeated_regex (ts : List Token) : Unrepeated (ts.flatMap Token.regex) := by
  cases ts with
  | nil => simp [Unrepeated]
  | cons t ts =>
      cases t with
      | anyRun | anyOne => simp [Unrepeated, Token.regex]
      | literal c =>
          simp only [Unrepeated, List.flatMap_cons, Token.regex, escapeChar]
          split_ifs with hspecial
          · simp
          · have hstar : isSpecial '*' = true := by decide
            intro h
            obtain rfl : c = '*' := by simpa using h
            exact hspecial hstar

/-- **The expression is read back part by part.** -/
theorem fullMatch_parts_iff (ts : List Token) (text : List Char) :
    FullMatch (ts.flatMap Token.regex) text ↔ Token.Fits ts text := by
  have hpoint : isSpecial '.' = true := by decide
  have hbackslash : isSpecial '\\' = true := by decide
  induction ts generalizing text with
  | nil =>
      constructor
      · intro h
        cases h
        exact .nil
      · intro h
        cases h
        exact .nil
  | cons t ts ih =>
      have hnext := unrepeated_regex ts
      rw [List.flatMap_cons]
      cases t with
      | anyRun =>
          constructor
          · intro h
            cases h with
            | anyRun skipped h => exact .anyRun skipped ((ih _).mp h)
            | anyOne _ halone => exact absurd rfl halone
            | plain _ hplain => exact absurd (hpoint.symm.trans hplain) (by decide)
          · intro h
            cases h with
            | anyRun skipped h => exact .anyRun skipped ((ih _).mpr h)
      | anyOne =>
          constructor
          · intro h
            rw [Token.regex, List.singleton_append] at h
            generalize hre : ts.flatMap Token.regex = re at h hnext
            cases h with
            | anyRun => exact absurd rfl hnext
            | anyOne c _ h => exact .anyOne c ((ih _).mp (hre ▸ h))
            | plain _ hplain => exact absurd (hpoint.symm.trans hplain) (by decide)
          · intro h
            cases h with
            | anyOne c h => exact .anyOne c hnext ((ih _).mpr h)
      | literal c =>
          rw [fits_literal_iff, Token.regex, escapeChar]
          split_ifs with hspecial
          · constructor
            · intro h
              cases h with
              | escaped _ _ _ h => exact ⟨_, rfl, (ih _).mp h⟩
              | plain _ hplain => exact absurd (hbackslash.symm.trans hplain) (by decide)
            · rintro ⟨rest, rfl, h⟩
              exact .escaped c hspecial hnext ((ih rest).mpr h)
          · rw [Bool.not_eq_true] at hspecial
            rw [List.singleton_append]
            constructor
            · intro h
              generalize hre : ts.flatMap Token.regex = re at h
              cases h with
              | anyRun | anyOne => exact absurd (hpoint.symm.trans hspecial) (by decide)
              | escaped => exact absurd (hbackslash.symm.trans hspecial) (by decide)
              | plain _ _ _ h => exact ⟨_, rfl, (ih _).mp (hre ▸ h)⟩
            · rintro ⟨rest, rfl, h⟩
              exact .plain c hspecial hnext ((ih rest).mpr h)

/-- **The expression for a pattern fits what the pattern fits.** -/
theorem fullMatch_regex_iff (pattern text : String) :
    FullMatch (regex pattern).toList text.toList ↔ Matches pattern.toList text.toList := by
  rw [regex, String.toList_ofList, fullMatch_parts_iff, tokens, (fits_tokens_iff pattern.toList).1]

end Criteria.Like

/-! ## Comparing with a pattern -/

namespace Criteria

open Like

namespace Item

/-- A text is its own plain text. -/
lemma text_str (s : String) (o : Origin) : text (.datum ⟨.str s, o⟩) = .ok s := rfl

/-- Absent items fit nothing. -/
lemma fits_none {a b : Item} (h : a.isNone = true ∨ b.isNone = true) : a.fits b = .ok false := by
  rw [fits, if_pos (Bool.or_eq_true_iff.mpr h)]

/-- Other items are compared by their plain texts, that of the pattern first. -/
lemma fits_present {a b : Item} (ha : a.isNone = false) (hb : b.isNone = false) :
    a.fits b = do
      let pattern ← b.text
      let text ← a.text
      return Like.fits pattern text := by
  simp [fits, ha, hb]

end Item

namespace Expr

variable {m : Evaluator} {apply : Item → Item → Run Item} {frame : Frame} {l r : Expr}
  {a b : Item} {w w₁ w₂ : World}

/-- A comparison of two items that are there does nothing beyond its operands. -/
lemma run_eval_compare (op : CompareOp) (hl : (l.eval m apply frame).run w = (.ok a, w₁))
    (hr : (r.eval m apply frame).run w₁ = (.ok b, w₂)) :
    ((compare op l r).eval m apply frame).run w = ((op.holds a b).map Item.ofBool, w₂) := by
  rw [eval, Run.run_bind, hl]
  simp only [Run.run_bind, hr, Run.run_ofExcept]
  cases op.holds a b <;> rfl

/-- **Comparing with a pattern decides whether the text fits it.**  An absent operand fits nothing.
Other operands are compared by their plain texts, which for a text is the text itself, and what is
decided is both the meaning of the pattern and that of its regular expression. -/
theorem eval_like (hl : (l.eval m apply frame).run w = (.ok a, w₁))
    (hr : (r.eval m apply frame).run w₁ = (.ok b, w₂)) :
    ((a.isNone = true ∨ b.isNone = true) →
      ((compare .like l r).eval m apply frame).run w = (.ok (.ofBool false), w₂)) ∧
    (a.isNone = false → b.isNone = false → ∀ text pattern : String,
      a.text = .ok text → b.text = .ok pattern →
      ∃ holds : Bool,
        ((compare .like l r).eval m apply frame).run w = (.ok (.ofBool holds), w₂) ∧
        (holds = true ↔ Matches pattern.toList text.toList) ∧
        (holds = true ↔ FullMatch (regex pattern).toList text.toList)) ∧
    (∀ (s : String) (o : Origin),
      Item.isNone (.datum ⟨.str s, o⟩) = false ∧ Item.text (.datum ⟨.str s, o⟩) = .ok s) := by
  have hcompare := run_eval_compare .like hl hr
  rw [CompareOp.holds] at hcompare
  refine ⟨?absent, ?present, fun s o => ⟨rfl, Item.text_str s o⟩⟩
  case absent =>
    intro habsent
    rw [hcompare, Item.fits_none habsent]
    rfl
  case present =>
    intro ha hb text pattern htext hpattern
    have hfits : a.fits b = .ok (Like.fits pattern text) := by
      rw [Item.fits_present ha hb, hpattern, htext]
      rfl
    refine ⟨Like.fits pattern text, ?_, fits_iff pattern text, ?_⟩
    · rw [hcompare, hfits]
      rfl
    · rw [fullMatch_regex_iff]
      exact fits_iff pattern text

/-- An escaped percent sign stands for itself, and a run may cross the end of a line. -/
theorem eval_like_escaped_percent :
    ((compare .like (const ⟨.str "5%\n!", ⟨1, []⟩⟩) (const ⟨.str "_\\%%!", ⟨2, []⟩⟩)).eval
      ⟨.default, Standard.host⟩ (fun _ _ => pure .none) []).run ⟨[], 3⟩ =
        (.ok (.ofBool true), ⟨[], 3⟩) := by
  have hconst : ∀ d : Datum, ((const d).eval ⟨.default, Standard.host⟩
      (fun _ _ => pure .none) []).run ⟨[], 3⟩ = (.ok (.datum d), ⟨[], 3⟩) := fun _ => rfl
  obtain ⟨holds, hrun, hmatches, -⟩ :=
    (eval_like (hconst ⟨.str "5%\n!", ⟨1, []⟩⟩) (hconst ⟨.str "_\\%%!", ⟨2, []⟩⟩)).2.1
      rfl rfl "5%\n!" "_\\%%!" rfl rfl
  have hfits : Matches "_\\%%!".toList "5%\n!".toList :=
    .one '5' (.escaped '%' (.run ['\n'] (.plain (by decide) (by decide) (by decide) .nil)))
  rw [hrun, hmatches.mpr hfits]

end Expr

end Criteria
