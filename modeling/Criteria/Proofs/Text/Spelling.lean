import Criteria.Config.Properties
import Mathlib

/-!
# Ways to write values

Settings that are texts are read as the types of fields.  What a value is usually written as is read as
that value.

* `readTruth_spelled` — the words for the truth values, in any letter case.
* **`readInteger_text`** — the decimal numeral of an integer, if it has not too many digits.
* `mayHold_eq_false` — a text without a dollar sign has no placeholders.
* `dotted_join`, `upperCase_append` — the parts of a longer dotted name, and its capitals.
-/

namespace Criteria.Text

/-! ## Words -/

section Words

/-- A fact about all ASCII characters may be checked for their numbers. -/
lemma ascii_cases {P : Char → Prop} (h : ∀ n < 128, P (Char.ofNat n)) {c : Char} (hc : c.toNat < 128) :
    P c := by
  rw [← Char.ofNat_toNat c]
  exact h c.toNat hc

lemma mapCase_lower {c : Char} (hc : c.toNat < 128) :
    mapCase lowerExpansions lowerRuns c = [c.toLower] :=
  ascii_cases (P := fun c => mapCase lowerExpansions lowerRuns c = [c.toLower])
    (by decide +kernel) hc

/-- Small letters of ASCII do not depend on what stands around them. -/
lemma lowerFrom_ascii {cs : List Char} (h : ∀ c ∈ cs, c.toNat < 128) (before : List Char) :
    lowerFrom before cs = cs.map Char.toLower := by
  induction cs generalizing before with
  | nil => rfl
  | cons c cs ih =>
      obtain ⟨hc, hcs⟩ := List.forall_mem_cons.mp h
      have hsigma : ¬ (c == 'Σ') = true := by
        intro heq
        rw [eq_of_beq heq] at hc
        exact absurd hc (by decide)
      rw [lowerFrom, if_neg hsigma, mapCase_lower hc, ih hcs]
      rfl

/-- Nothing is trimmed from characters that are to be kept. -/
lemma trimList_eq_self {p : Char → Bool} {cs : List Char} (h : ∀ c ∈ cs, p c = false) :
    trimList p cs = cs := by
  have kept : ∀ {ds : List Char}, (∀ c ∈ ds, p c = false) → ds.dropWhile p = ds := by
    intro ds hds
    cases ds with
    | nil => rfl
    | cons d ds => rw [List.dropWhile_cons_of_neg (by simp [hds d])]
  rw [trimList, kept h, kept (fun c hc => h c (List.mem_reverse.mp hc)), List.reverse_reverse]

/-- The character is a letter of ASCII if the small one is. -/
lemma toNat_of_toLower {c : Char} (h : c.toLower.toNat < 128) : c.toNat < 128 := by
  rw [Char.toLower] at h
  split_ifs at h with hcapital
  · exact Nat.lt_of_le_of_lt hcapital.2 (by decide)
  · exact h

lemma isBlank_toLower {c : Char} (hc : c.toNat < 128) : isBlank c.toLower = isBlank c :=
  ascii_cases (P := fun c => isBlank c.toLower = isBlank c) (by decide +kernel) hc

/-- A word of ASCII letters in any case is read as the one in small letters. -/
lemma lowerCase_strip {text word : String} (h : text.toList.map Char.toLower = word.toList)
    (plain : word.toList.all (fun c => c.toNat < 128 && !isBlank c) = true) :
    lowerCase (strip text) = word := by
  have hsmall : ∀ c ∈ text.toList, c.toLower.toNat < 128 ∧ isBlank c.toLower = false := by
    intro c hc
    have hc' := List.all_eq_true.mp plain c.toLower (h ▸ List.mem_map_of_mem hc)
    simpa using hc'
  have hascii : ∀ c ∈ text.toList, c.toNat < 128 := fun c hc => toNat_of_toLower (hsmall c hc).1
  have hblank : ∀ c ∈ text.toList, isBlank c = false := by
    intro c hc
    rw [← isBlank_toLower (hascii c hc)]
    exact (hsmall c hc).2
  rw [strip, trimList_eq_self hblank, lowerCase, String.toList_ofList, lowerFrom_ascii hascii, h,
    String.ofList_toList]

/-- **The words for the truth values are read as these**, in any letter case. -/
theorem readTruth_spelled {text : String} {b : Bool}
    (h : text.toList.map Char.toLower = (toString b).toList) :
    FieldKind.read .truth (.str text) = .ok (.bool b) := by
  have hword : lowerCase (strip text) = toString b := by
    refine lowerCase_strip h ?_
    cases b <;> rfl
  rw [FieldKind.read, hword]
  cases b <;> rfl

end Words

/-! ## Numerals -/

section Numerals

lemma toNat_of_isDigit {c : Char} (h : c.isDigit = true) : c.toNat < 128 := by
  rw [Char.isDigit, Bool.and_eq_true, decide_eq_true_iff, decide_eq_true_iff] at h
  exact Nat.lt_of_le_of_lt h.2 (by decide)

lemma digitIn?_of_isDigit {c : Char} (h : c.isDigit = true) :
    digitIn? 10 c = some (c.toNat - 48) :=
  ascii_cases (P := fun c => c.isDigit = true → digitIn? 10 c = some (c.toNat - 48))
    (by decide +kernel) (toNat_of_isDigit h) h

/-- The digits of a numeral run to its end. -/
lemma digitRun_digits {cs : List Char} (h : ∀ c ∈ cs, c.isDigit = true) (started : Bool) :
    digitRun 10 started cs = (cs.map fun c => c.toNat - 48, []) := by
  induction cs generalizing started with
  | nil => rfl
  | cons c cs ih =>
      obtain ⟨hc, hcs⟩ := List.forall_mem_cons.mp h
      rw [digitRun, digitIn?_of_isDigit hc, ih hcs]
      rfl

lemma skipMark_ten (cs : List Char) : skipMark 10 cs = (cs, false) := by
  unfold skipMark
  split
  · rfl
  · rfl

lemma ofDigits_toDigits (n : Nat) : ofDigits 10 ((Nat.toDigits 10 n).map fun c => c.toNat - 48) = n := by
  rw [ofDigits, List.foldl_map]
  exact Nat.ofDigitChars_ten_toDigits

/-- What is read after the sign of a numeral, if there are not too many digits. -/
lemma readInteger_digits {s : String} {negative : Bool} {n : Nat}
    (h : readSign (numeralBody s) = (negative, Nat.toDigits 10 n)) :
    readInteger 10 s =
      if digitLimit < (Nat.toDigits 10 n).length then .error (.tooLong (Nat.toDigits 10 n).length)
      else .ok (if negative then -(n : Int) else n) := by
  have hdigits : ∀ c ∈ Nat.toDigits 10 n, c.isDigit = true :=
    fun c hc => Nat.isDigit_of_mem_toDigits (by decide) (by decide) hc
  have hnonempty : (Nat.toDigits 10 n).isEmpty = false := by
    rw [List.isEmpty_eq_false_iff]
    exact Nat.toDigits_ne_nil
  simp only [readInteger, h, skipMark_ten, digitRun_digits hdigits, List.isEmpty_map, hnonempty,
    List.length_map, ofDigits_toDigits]
  by_cases hlong : digitLimit < (Nat.toDigits 10 n).length
  · simp [hlong, isWholeBits]
  · simp [hlong]

/-- An integer can be written if it has not too many digits. -/
lemma isWritable_int_iff {n : Int} :
    (Value.int n).isWritable = true ↔ (Nat.toDigits 10 n.natAbs).length ≤ digitLimit := by
  rw [Value.isWritable, decide_eq_true_iff, Nat.pow_eq,
    Nat.length_toDigits_le_iff (by decide) (by decide)]

/-- The numeral of an integer: a minus if there is one, and digits. -/
lemma toList_text (n : Int) : (Value.int n).text.toList =
    (if n < 0 then ['-'] else []) ++ Nat.toDigits 10 n.natAbs := by
  show (intLiteral n).toList = _
  rw [intLiteral]
  split_ifs
  · rw [String.toList_append, Nat.toString_eq_repr, Nat.toList_repr]
    rfl
  · rw [Nat.toString_eq_repr, Nat.toList_repr]
    rfl

/-- The characters of a numeral. -/
lemma mem_text {n : Int} {c : Char} (h : c ∈ (Value.int n).text.toList) : c = '-' ∨ c.isDigit = true := by
  rw [toList_text, List.mem_append] at h
  rcases h with hsign | hdigit
  · split_ifs at hsign
    · exact .inl (List.mem_singleton.mp hsign)
    · cases hsign
  · exact .inr (Nat.isDigit_of_mem_toDigits (by decide) (by decide) hdigit)

lemma numeralBody_text (n : Int) : numeralBody (Value.int n).text = (Value.int n).text.toList := by
  refine trimList_eq_self fun c hc => ?_
  rcases mem_text hc with rfl | hdigit
  · decide
  · exact ascii_cases (P := fun c => c.isDigit = true → isNumeralSpace c = false)
      (by decide +kernel) (toNat_of_isDigit hdigit) hdigit

/-- Digits are no sign. -/
lemma readSign_digits {cs : List Char} (h : ∀ c ∈ cs, c.isDigit = true) : readSign cs = (false, cs) := by
  unfold readSign
  split
  · exact absurd (h '-' List.mem_cons_self) (by decide)
  · exact absurd (h '+' List.mem_cons_self) (by decide)
  · rfl

/-- **The numeral of an integer is read as the integer**, unless it has too many digits to be written. -/
theorem readInteger_text (n : Int) : FieldKind.read .whole (.str (Value.int n).text) =
    if (Value.int n).isWritable then .ok (.int n)
    else .error (.tooManyDigits (Nat.toDigits 10 n.natAbs).length) := by
  have hsign : readSign (numeralBody (Value.int n).text) =
      (decide (n < 0), Nat.toDigits 10 n.natAbs) := by
    rw [numeralBody_text, toList_text]
    split_ifs with hn
    · rw [decide_eq_true hn]
      rfl
    · rw [decide_eq_false hn, List.nil_append]
      exact readSign_digits fun c hc => Nat.isDigit_of_mem_toDigits (by decide) (by decide) hc
  have hvalue : (if decide (n < 0) then -(n.natAbs : Int) else n.natAbs) = n := by
    split_ifs with hn <;> rw [decide_eq_true_iff] at hn <;> omega
  rw [FieldKind.read, Fault.readInteger, readInteger_digits hsign, hvalue]
  by_cases hlong : digitLimit < (Nat.toDigits 10 n.natAbs).length
  · rw [if_pos hlong, if_neg (mt isWritable_int_iff.mp (Nat.not_le.mpr hlong))]
    rfl
  · rw [if_neg hlong, if_pos (isWritable_int_iff.mpr (Nat.not_lt.mp hlong))]
    rfl

/-- Without a dollar sign there is no placeholder. -/
lemma mayHold_eq_false {text : String} (h : '$' ∉ text.toList) : Placeholder.mayHold text = false := by
  have absent : ∀ cs : List Char, '$' ∉ cs → occursIn ['$', '\x7b'] cs = false := by
    intro cs hcs
    induction cs with
    | nil => rfl
    | cons c cs ih =>
        rw [List.mem_cons, not_or] at hcs
        rw [occursIn, ih hcs.2, List.isPrefixOf_cons_cons, beq_false_of_ne hcs.1]
        rfl
  exact absent text.toList h

/-- Words and numerals have no placeholders. -/
lemma mayHold_word {text : String} {b : Bool} (h : text.toList.map Char.toLower = (toString b).toList) :
    Placeholder.mayHold text = false := by
  refine mayHold_eq_false fun hmem => ?_
  have hdollar : '$' ∈ (toString b).toList := by
    rw [← h]
    exact List.mem_map_of_mem (f := Char.toLower) hmem
  cases b <;> exact absurd hdollar (by decide)

lemma mayHold_text (n : Int) : Placeholder.mayHold (Value.int n).text = false := by
  refine mayHold_eq_false fun hmem => ?_
  rcases mem_text hmem with h | h <;> exact absurd h (by decide)

end Numerals

/-! ## Names -/

section Names

lemma splitDots_of_not_mem {cs : List Char} (h : '.' ∉ cs) : splitDots cs = [cs] := by
  induction cs with
  | nil => rfl
  | cons c cs ih =>
      rw [List.mem_cons, not_or] at h
      rw [splitDots, ih h.2]
      exact if_neg (Ne.symm h.1)

lemma splitDots_append (before cs : List Char) :
    splitDots (before ++ '.' :: cs) = splitDots before ++ splitDots cs := by
  induction before with
  | nil =>
      cases hparts : splitDots cs with
      | nil => exact absurd hparts (splitDots_ne_nil cs)
      | cons part parts =>
          simp only [List.nil_append, splitDots, hparts, if_true]
          rfl
  | cons b before ih =>
      rw [List.cons_append, splitDots, ih]
      cases hparts : splitDots before with
      | nil => exact absurd hparts (splitDots_ne_nil before)
      | cons part parts =>
          rw [List.cons_append, splitDots, hparts]
          split_ifs <;> rfl

/-- The parts of a name are those before one of its dots and those behind it. -/
lemma dotted_join (key name : String) : dotted (key ++ "." ++ name) = dotted key ++ dotted name := by
  rw [dotted, String.toList_append, String.toList_append, List.append_assoc]
  show (splitDots (key.toList ++ '.' :: name.toList)).map String.ofList = _
  rw [splitDots_append, List.map_append]
  rfl

/-- A name without dots is its only part. -/
lemma dotted_of_not_mem {name : String} (h : '.' ∉ name.toList) : dotted name = [name] := by
  rw [dotted, splitDots_of_not_mem h, List.map_singleton, String.ofList_toList]

/-- A part without dots is the last one of a longer name. -/
lemma dotted_append {name : String} (h : '.' ∉ name.toList) (key : String) :
    dotted (key ++ "." ++ name) = dotted key ++ [name] := by
  rw [dotted_join, dotted_of_not_mem h]

lemma upperCase_append (s t : String) : upperCase (s ++ t) = upperCase s ++ upperCase t := by
  rw [upperCase, String.toList_append, List.flatMap_append, String.ofList_append]
  rfl

end Names

end Criteria.Text
