import Criteria.Proofs.Like.Matching

/-!
# Reading an expression back

The regular expression for a pattern is written part by part, with nothing between the parts.  It still
tells where each part ends: whoever reads it from the left meets the parts of the pattern again, and no
others.

* `Spells` — the parts of which a pattern is made, read character by character.  `spells_iff` says that
  they are what the splitter finds, wherever escapes stand.
* `parts?` — the parts that stand in an expression.  A character with a meaning has to follow a
  backslash, unless it is the point, or the star of a point, that a wildcard is written as.
* `parts?_eq_some_iff` — an expression has given parts exactly if it is written from them.
* **`regex_decodable`** — the expression for a pattern has the parts of the pattern, so two patterns
  have the same expression exactly if they are made of the same parts.
-/

namespace Criteria.Like

/-! ## The parts of a pattern -/

/-- The parts of which a pattern is made. -/
inductive Spells : List Char → List Token → Prop where
  | nil : Spells [] []
  | run {ps : List Char} {ts : List Token} : Spells ps ts → Spells ('%' :: ps) (.anyRun :: ts)
  | one {ps : List Char} {ts : List Token} : Spells ps ts → Spells ('_' :: ps) (.anyOne :: ts)
  /-- After a backslash every character stands for itself. -/
  | escaped {ps : List Char} {ts : List Token} (c : Char) :
      Spells ps ts → Spells ('\\' :: c :: ps) (.literal c :: ts)
  /-- A backslash with nothing after it stands for itself. -/
  | dangling : Spells ['\\'] [.literal '\\']
  | plain {c : Char} {ps : List Char} {ts : List Token} : c ≠ '%' → c ≠ '_' → c ≠ '\\' →
      Spells ps ts → Spells (c :: ps) (.literal c :: ts)

/-- A pattern is made of what the splitter finds, in both states of the splitter: after an unpaired
backslash the rest is what it is behind that backslash. -/
lemma spells_tokensFrom (ps : List Char) :
    Spells ps (tokensFrom false ps) ∧ Spells ('\\' :: ps) (tokensFrom true ps) := by
  induction ps with
  | nil => exact ⟨.nil, .dangling⟩
  | cons c ps ih =>
      obtain ⟨ihPlain, ihEscaped⟩ := ih
      constructor
      · rw [tokensFrom, if_neg Bool.false_ne_true]
        split_ifs with hescape hrun hone
        · exact hescape ▸ ihEscaped
        · exact hrun ▸ ihPlain.run
        · exact hone ▸ ihPlain.one
        · exact ihPlain.plain hrun hone hescape
      · rw [tokensFrom, if_pos rfl]
        exact ihPlain.escaped c

/-- A pattern is made of its parts in one way only. -/
lemma Spells.unique {ps : List Char} {ts us : List Token} (h : Spells ps ts) (h' : Spells ps us) :
    ts = us := by
  induction h generalizing us with
  | nil =>
      cases h'
      rfl
  | run _ ih =>
      cases h' with
      | run h' => rw [ih h']
      | plain hne => exact absurd rfl hne
  | one _ ih =>
      cases h' with
      | one h' => rw [ih h']
      | plain _ hne => exact absurd rfl hne
  | escaped c _ ih =>
      cases h' with
      | escaped _ h' => rw [ih h']
      | plain _ _ hne => exact absurd rfl hne
  | dangling =>
      cases h' with
      | dangling => rfl
      | plain _ _ hne => exact absurd rfl hne
  | plain hrun hone hescape _ ih =>
      cases h' with
      | run => exact absurd rfl hrun
      | one => exact absurd rfl hone
      | escaped | dangling => exact absurd rfl hescape
      | plain _ _ _ h' => rw [ih h']

/-- **The splitter finds what a pattern is made of.** -/
theorem spells_iff {pattern : String} {ts : List Token} :
    Spells pattern.toList ts ↔ tokens pattern = ts := by
  have hparts := (spells_tokensFrom pattern.toList).1
  constructor
  · exact hparts.unique
  · rintro rfl
    exact hparts

/-! ## The parts of an expression -/

/-- The parts that stand in a regular expression; there are none if a character with a meaning stands
where no part begins with it. -/
def parts? : List Char → Option (List Token)
  | [] => some []
  | '.' :: '*' :: re => (parts? re).map (.anyRun :: ·)
  | '.' :: re => (parts? re).map (.anyOne :: ·)
  | '\\' :: c :: re => if isSpecial c then (parts? re).map (.literal c :: ·) else none
  | c :: re => if isSpecial c then none else (parts? re).map (.literal c :: ·)

section Reading

variable {re : List Char} {ts : List Token}

/-- A point that no star follows is a part by itself. -/
lemma parts?_point (alone : Unrepeated re) : parts? ('.' :: re) = (parts? re).map (.anyOne :: ·) := by
  cases re with
  | nil => rfl
  | cons c re =>
      have hstar : c ≠ '*' := fun h => alone (congrArg some h)
      rw [parts?]
      rintro _ ⟨⟩
      exact hstar rfl

/-- A character is read back as itself, however it has to be written. -/
lemma parts?_escapeChar (c : Char) :
    parts? (escapeChar c ++ re) = (parts? re).map (.literal c :: ·) := by
  rw [escapeChar]
  split_ifs with hspecial
  · exact if_pos hspecial
  · have hpoint : c ≠ '.' := by
      rintro rfl
      exact hspecial (by decide)
    have hbackslash : c ≠ '\\' := by
      rintro rfl
      exact hspecial (by decide)
    rw [List.singleton_append, parts?, if_neg hspecial]
    · exact fun _ h _ => hpoint h
    · exact fun h => hpoint h
    · exact fun _ _ h _ => hbackslash h

/-- Reading takes off the expression for a part exactly this part. -/
lemma parts?_cons (t : Token) (ts : List Token) :
    parts? ((t :: ts).flatMap Token.regex) = (parts? (ts.flatMap Token.regex)).map (t :: ·) := by
  rw [List.flatMap_cons]
  cases t with
  | anyRun => rfl
  | anyOne => exact parts?_point (unrepeated_regex ts)
  | literal c => exact parts?_escapeChar c

/-- **What is written from parts is read back as these parts**, by induction on the parts. -/
theorem parts?_regex (ts : List Token) : parts? (ts.flatMap Token.regex) = some ts := by
  induction ts with
  | nil => rfl
  | cons t ts ih => rw [parts?_cons, ih, Option.map_some]

/-- **Only what is written from parts is read back**, by induction along the reader. -/
theorem eq_of_parts? (h : parts? re = some ts) : re = ts.flatMap Token.regex := by
  fun_induction parts? re generalizing ts with
  | case1 =>
      cases h
      rfl
  | case2 re ih | case3 re _ ih =>
      obtain ⟨us, hus, rfl⟩ := Option.map_eq_some_iff.mp h
      rw [ih hus]
      rfl
  | case4 c re hspecial ih =>
      obtain ⟨us, hus, rfl⟩ := Option.map_eq_some_iff.mp h
      rw [ih hus, List.flatMap_cons, Token.regex, escapeChar, if_pos hspecial]
      rfl
  | case5 | case6 => cases h
  | case7 c re _ _ _ hspecial ih =>
      obtain ⟨us, hus, rfl⟩ := Option.map_eq_some_iff.mp h
      rw [ih hus, List.flatMap_cons, Token.regex, escapeChar, if_neg hspecial]
      rfl

theorem parts?_eq_some_iff : parts? re = some ts ↔ re = ts.flatMap Token.regex := by
  constructor
  · exact eq_of_parts?
  · rintro rfl
    exact parts?_regex ts

end Reading

/-- **The expression for a pattern can be decoded.**  Read back, it has the parts of which the pattern is
made, and no others; an expression that can be read back at all is written from its parts.  So two
patterns have the same expression exactly if they are made of the same parts. -/
theorem regex_decodable (pattern : String) :
    (∀ ts, parts? (regex pattern).toList = some ts ↔ Spells pattern.toList ts) ∧
    (∀ re ts, parts? re = some ts ↔ re = ts.flatMap Token.regex) ∧
    ∀ other, regex pattern = regex other ↔
      ∃ ts, Spells pattern.toList ts ∧ Spells other.toList ts := by
  have decoded : ∀ p, parts? (regex p).toList = some (tokens p) := fun p => by
    rw [regex, String.toList_ofList, parts?_regex]
  refine ⟨fun ts => ?parts, fun re ts => parts?_eq_some_iff, fun other => ?same⟩
  case parts => rw [decoded, Option.some.injEq, spells_iff]
  case same =>
    simp only [spells_iff]
    constructor
    · intro h
      have hparts := decoded pattern
      rw [h, decoded other] at hparts
      exact ⟨tokens pattern, rfl, Option.some.inj hparts⟩
    · rintro ⟨ts, hpattern, hother⟩
      rw [regex, regex, hpattern, hother]

end Criteria.Like
