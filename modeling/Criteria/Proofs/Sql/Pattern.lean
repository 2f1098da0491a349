import Criteria.Sql.FromLambda
import Mathlib.Tactic.Lemma
import Mathlib.Tactic.SplitIfs

/-!
# Patterns of the query language

`like` is the pattern matching of the query language: a percent sign stands for any run of characters,
an underscore for any one character, and a chosen escape character takes the next character
literally.  A pattern that ends in an escape character with nothing to escape fits no text.

**Two readings of a pattern.**
* `like_eq_fits` — with the backslash as the escape character, `like` is `Like.fits`, except for
  patterns that leave a backslash dangling.

**Searching.**  A text is searched for by a pattern between two percent signs.
* `like_search` — such a pattern fits exactly the texts in which the searched one occurs.
-/

namespace Criteria.Sql

/-- Whether the first character and what follows it pass two tests. -/
def headTail (first : Char → Bool) (rest : List Char → Bool) : List Char → Bool
  | [] => false
  | c :: cs => first c && rest cs

/-- Whether the text fits the pattern; `escaped` says that an escape character came right before. -/
def likeFrom (escape : Char) (escaped : Bool) : List Char → List Char → Bool
  | [], text => !escaped && text.isEmpty
  | p :: ps, text =>
    if escaped then headTail (p == ·) (likeFrom escape false ps) text
    else if p = escape then likeFrom escape true ps text
    else if p = '%' then Like.anySuffix (likeFrom escape false ps) text
    else headTail (fun c => p == '_' || p == c) (likeFrom escape false ps) text

/-- Whether the text fits the pattern with the given escape character. -/
def like (escape : Char) (pattern text : String) : Bool :=
  likeFrom escape false pattern.toList text.toList

/-! ## Two readings of a pattern -/

/-- Whether a pattern ends in an unpaired backslash; `escaped` says that one came right before. -/
def danglesFrom (escaped : Bool) : List Char → Bool
  | [] => escaped
  | c :: cs => if escaped then danglesFrom false cs else danglesFrom (c == '\\') cs

/-- Whether a pattern ends in an unpaired backslash. -/
def dangles (pattern : String) : Bool := danglesFrom false pattern.toList

lemma matchAll_literal (c : Char) (ts : List Like.Token) (text : List Char) :
    Like.Token.matchAll (.literal c :: ts) text = headTail (c == ·) (Like.Token.matchAll ts) text := by
  cases text <;> rfl

lemma matchAll_anyOne (ts : List Like.Token) (text : List Char) :
    Like.Token.matchAll (.anyOne :: ts) text =
      headTail (fun _ => true) (Like.Token.matchAll ts) text := by
  cases text <;> rfl

lemma likeFrom_eq_matchAll : ∀ (ps : List Char) (escaped : Bool), danglesFrom escaped ps = false →
    likeFrom '\\' escaped ps = Like.Token.matchAll (Like.tokensFrom escaped ps)
  | [], escaped, h => by
      have hescaped : escaped = false := h
      rw [hescaped]
      rfl
  | p :: ps, true, h => by
      funext text
      rw [likeFrom, Like.tokensFrom, if_pos rfl, if_pos rfl, matchAll_literal,
        likeFrom_eq_matchAll ps false h]
  | p :: ps, false, h => by
      funext text
      rw [likeFrom, Like.tokensFrom, if_neg Bool.false_ne_true, if_neg Bool.false_ne_true]
      by_cases hescape : p = '\\'
      · subst hescape
        rw [if_pos rfl, if_pos rfl, likeFrom_eq_matchAll ps true h]
      · have hrest : danglesFrom false ps = false := by
          rw [danglesFrom, if_neg Bool.false_ne_true, beq_eq_false_iff_ne.mpr hescape] at h
          exact h
        rw [if_neg hescape, if_neg hescape, likeFrom_eq_matchAll ps false hrest]
        by_cases hrun : p = '%'
        · rw [if_pos hrun, if_pos hrun, Like.Token.matchAll]
        · rw [if_neg hrun, if_neg hrun]
          by_cases hone : p = '_'
          · rw [if_pos hone, matchAll_anyOne, hone]
            rfl
          · rw [if_neg hone, matchAll_literal, beq_eq_false_iff_ne.mpr hone]
            rfl

/-- **Both readings agree** on patterns that leave no backslash dangling. -/
theorem like_eq_fits {pattern : String} (h : dangles pattern = false) (text : String) :
    like '\\' pattern text = Like.fits pattern text := by
  rw [like, likeFrom_eq_matchAll pattern.toList false h]
  rfl

/-! ## Searching -/

/-- A character that stands for itself in a pattern with the escape character `/`. -/
def escapeWildcard (c : Char) : List Char := if c = '/' || c = '%' || c = '_' then ['/', c] else [c]

/-- An escaped character fits exactly itself. -/
lemma likeFrom_escapeWildcard (c : Char) (ps text : List Char) :
    likeFrom '/' false (escapeWildcard c ++ ps) text =
      headTail (c == ·) (likeFrom '/' false ps) text := by
  unfold escapeWildcard
  by_cases h : (c = '/' || c = '%' || c = '_') = true
  · rw [if_pos h]
    rfl
  · rw [if_neg h]
    simp only [Bool.or_eq_true, decide_eq_true_eq, not_or] at h
    rw [List.singleton_append, likeFrom, if_neg Bool.false_ne_true, if_neg h.1.1, if_neg h.1.2,
      beq_eq_false_iff_ne.mpr h.2]
    rfl

/-- Anything fits a single percent sign. -/
lemma likeFrom_run (text : List Char) : likeFrom '/' false ['%'] text = true := by
  show Like.anySuffix (likeFrom '/' false []) text = true
  induction text with
  | nil => rfl
  | cons c text ih => rw [Like.anySuffix, ih, Bool.or_true]

/-- An escaped text and a percent sign fit the texts that begin with it. -/
lemma likeFrom_prefix : ∀ s : List Char,
    likeFrom '/' false (s.flatMap escapeWildcard ++ ['%']) = s.isPrefixOf
  | [] => funext likeFrom_run
  | c :: s => by
      funext text
      rw [List.flatMap_cons, List.append_assoc, likeFrom_escapeWildcard, likeFrom_prefix s]
      cases text <;> rfl

lemma anySuffix_isPrefixOf (s text : List Char) :
    Like.anySuffix s.isPrefixOf text = occursIn s text := by
  induction text with
  | nil => cases s <;> rfl
  | cons c text ih => rw [Like.anySuffix, occursIn, ih]

/-- **Searching by a pattern.** -/
theorem like_search (s text : String) :
    like '/' ("%" ++ escapeWildcards s ++ "%") text = occursIn s.toList text.toList := by
  have hescaped : (escapeWildcards s).toList = s.toList.flatMap escapeWildcard :=
    String.toList_ofList
  have hpattern : ("%" ++ escapeWildcards s ++ "%").toList =
      '%' :: (s.toList.flatMap escapeWildcard ++ ['%']) := by
    rw [String.toList_append, String.toList_append, hescaped]
    rfl
  rw [like, hpattern, likeFrom, if_neg Bool.false_ne_true, if_neg (by decide), if_pos rfl,
    likeFrom_prefix, anySuffix_isPrefixOf]

end Criteria.Sql
