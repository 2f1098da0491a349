import Criteria.Proofs.Sql.Denotation

/-!
# What a text shows of values

The text of a clause mentions values by name only.

* `Clause.blank` — a clause without the values that it passes.
* `Clause.slots` — these values, in the order in which the text mentions them.
* `Indistinct`, `Mentions` — two ways to print that cannot be told apart by what is written, and the
  values that one mentions.  Both are kept by doing one thing after the other.
* **`render_text`**, **`render_names`**, **`render_values`** — the text of a clause is that of the
  blank clause, the names depend on the bases alone, and the values are those of the slots.
* `blank_protect`, `blank_negate`, `blank_connect` and the same for `slots` — the operations that
  build clauses do not look at values.
-/

namespace Criteria.Sql

/-- Values with the bases of the names under which they are passed. -/
abbrev Slots := List (String × Value)

/-- The names under which values with these bases are passed after others: those of one base are
numbered. -/
def namesAfter (before : List String) : List String → List String
  | [] => []
  | base :: bases =>
    (base ++ "_" ++ toString (before.count base + 1)) :: namesAfter (before ++ [base]) bases

/-- The names under which values with these bases are passed. -/
def names (bases : List String) : List String := namesAfter [] bases

lemma namesAfter_snoc (before bases : List String) (base : String) :
    namesAfter before (bases ++ [base]) = namesAfter before bases ++
      [base ++ "_" ++ toString ((before ++ bases).count base + 1)] := by
  induction bases generalizing before with
  | nil => rw [List.nil_append, namesAfter, namesAfter, namesAfter, List.append_nil, List.nil_append]
  | cons b bases ih =>
      rw [List.cons_append, namesAfter, ih, namesAfter, List.cons_append, ← List.append_cons]

/-- What a clause shows of a value: whether it is a truth value. -/
def shown : Value → Value
  | .bool _ => .bool true
  | _ => .none

namespace Clause

/-! ## Blank clauses and slots -/

mutual

/-- The clause without the values that it passes. -/
def blank : Clause → Clause
  | column c => column c
  | bind base v => bind base (shown v)
  | null => null
  | truth b => truth b
  | compare r x y => compare r x.blank y.blank
  | like n x y => like n x.blank y.blank
  | contains n x y => contains n x.blank y.blank
  | within n x base _ => within n x.blank base []
  | chain k parts => chain k (blankAll parts)
  | not c => not c.blank
  | asCondition n c => asCondition n c.blank
  | caseOnly test yes => caseOnly test.blank yes.blank
  | caseElse test yes no => caseElse test.blank yes.blank no.blank
  | group c => group c.blank

def blankAll : List Clause → List Clause
  | [] => []
  | c :: cs => c.blank :: blankAll cs

end

mutual

/-- The values that the clause passes. -/
def slots : Clause → Slots
  | column _ | null | truth _ => []
  | bind base v => [(base, v)]
  | compare _ x y | like _ x y | contains _ x y => x.slots ++ y.slots
  | within _ x base items => x.slots ++ [(base, .list items)]
  | chain _ parts => slotsAll parts
  | not c | asCondition _ c | group c => c.slots
  | caseOnly test yes => test.slots ++ yes.slots
  | caseElse test yes no => test.slots ++ (yes.slots ++ no.slots)

def slotsAll : List Clause → Slots
  | [] => []
  | c :: cs => c.slots ++ slotsAll cs

end

lemma blankAll_append (cs ds : List Clause) : blankAll (cs ++ ds) = blankAll cs ++ blankAll ds := by
  induction cs with
  | nil => rfl
  | cons c cs ih => rw [List.cons_append, blankAll, ih, blankAll, List.cons_append]

lemma slotsAll_append (cs ds : List Clause) : slotsAll (cs ++ ds) = slotsAll cs ++ slotsAll ds := by
  induction cs with
  | nil => rfl
  | cons c cs ih => rw [List.cons_append, slotsAll, ih, slotsAll, List.append_assoc]

end Clause

/-! ## Printing -/

section Rules

variable {α β : Type}

/-- The two write the same wherever the same bases were used before. -/
def Indistinct (m m' : StateM Printing α) : Prop :=
  ∀ p q : Printing, p.counts = q.counts → (m p).1 = (m' q).1 ∧ (m p).2.counts = (m' q).2.counts

lemma Indistinct.pure (a : α) : Indistinct (pure a) (pure a) := fun _ _ h => ⟨rfl, h⟩

lemma Indistinct.bind {m m' : StateM Printing α} {f f' : α → StateM Printing β}
    (h : Indistinct m m') (hf : ∀ a, Indistinct (f a) (f' a)) :
    Indistinct (m >>= f) (m' >>= f') := by
  intro p q hpq
  obtain ⟨hresult, hcounts⟩ := h p q hpq
  show (f (m p).1 (m p).2).1 = (f' (m' q).1 (m' q).2).1 ∧
    (f (m p).1 (m p).2).2.counts = (f' (m' q).1 (m' q).2).2.counts
  rw [← hresult]
  exact hf _ _ _ hcounts

lemma indistinct_pass (base : String) (v w : Value) : Indistinct (pass base v) (pass base w) := by
  intro p q h
  have hcount : p.count base = q.count base := by rw [Printing.count, h, Printing.count]
  show base ++ "_" ++ toString (p.count base + 1) = base ++ "_" ++ toString (q.count base + 1) ∧
    (base, p.count base + 1) :: p.counts = (base, q.count base + 1) :: q.counts
  rw [hcount, h]
  exact ⟨rfl, rfl⟩

/-- The values have been passed, and nothing else. -/
structure Printing.After (p : Printing) (before : Slots) : Prop where
  count : ∀ base, p.count base = (before.map Prod.fst).count base
  names : p.binds.map Prod.fst = Sql.names (before.map Prod.fst)
  values : p.binds.map Prod.snd = before.map Prod.snd

/-- These values are passed. -/
def Mentions (m : StateM Printing α) (slots : Slots) : Prop :=
  ∀ p before, p.After before → (m p).2.After (before ++ slots)

lemma Mentions.pure (a : α) : Mentions (pure a) [] := by
  intro p before h
  rw [List.append_nil]
  exact h

lemma Mentions.bind {m : StateM Printing α} {f : α → StateM Printing β} {s t : Slots}
    (h : Mentions m s) (hf : ∀ a, Mentions (f a) t) : Mentions (m >>= f) (s ++ t) := by
  intro p before hp
  rw [← List.append_assoc]
  exact hf _ _ _ (h p before hp)

/-- What is done at the end passes nothing. -/
lemma Mentions.map {m : StateM Printing α} {s : Slots} (h : Mentions m s) (f : α → β) :
    Mentions (do return f (← m)) s := by
  have hbind := h.bind fun a => .pure (f a)
  rwa [List.append_nil] at hbind

lemma mentions_pass (base : String) (v : Value) : Mentions (pass base v) [(base, v)] := by
  intro p before h
  refine ⟨fun b => ?_, ?_, ?_⟩
  · show (((base, p.count base + 1) :: p.counts).lookup b).getD 0 = _
    rw [List.map_append, List.count_append, ← h.count, List.lookup_cons, List.map_singleton,
      List.count_singleton]
    by_cases hb : b = base
    · subst hb
      rw [beq_self_eq_true, if_pos rfl]
      rfl
    · rw [beq_false_of_ne hb, beq_false_of_ne (Ne.symm hb)]
      rfl
  · show (p.binds ++ [(base ++ "_" ++ toString (p.count base + 1), v)]).map Prod.fst = _
    rw [List.map_append, List.map_append, h.names, h.count]
    exact (namesAfter_snoc [] _ base).symm
  · show (p.binds ++ [(_, v)]).map Prod.snd = _
    rw [List.map_append, List.map_append, h.values]
    rfl

end Rules

namespace Clause

mutual

/-- A clause is printed like the blank one. -/
theorem indistinct_print : ∀ c : Clause, Indistinct (print c) (print c.blank)
  | column _ | null | truth _ => .pure _
  | bind base v => (indistinct_pass base v _).bind fun _ => .pure _
  | compare _ x y | like _ x y | contains _ x y =>
      (indistinct_print x).bind fun _ => (indistinct_print y).bind fun _ => .pure _
  | within _ x base _ =>
      (indistinct_print x).bind fun _ => (indistinct_pass base _ _).bind fun _ => .pure _
  | chain _ parts => (indistinct_printAll parts).bind fun _ => .pure _
  | not c | asCondition _ c | group c => (indistinct_print c).bind fun _ => .pure _
  | caseOnly test yes =>
      (indistinct_print test).bind fun _ => (indistinct_print yes).bind fun _ => .pure _
  | caseElse test yes no =>
      (indistinct_print test).bind fun _ => (indistinct_print yes).bind fun _ =>
        (indistinct_print no).bind fun _ => .pure _

theorem indistinct_printAll : ∀ cs : List Clause, Indistinct (printAll cs) (printAll (blankAll cs))
  | [] => .pure _
  | c :: cs => (indistinct_print c).bind fun _ => (indistinct_printAll cs).bind fun _ => .pure _

end

mutual

/-- The values of a clause are passed. -/
theorem mentions_print : ∀ c : Clause, Mentions (print c) c.slots
  | column _ | null | truth _ => .pure _
  | bind base v => (mentions_pass base v).map _
  | compare _ x y | like _ x y | contains _ x y =>
      (mentions_print x).bind fun _ => (mentions_print y).map _
  | within _ x base _ => (mentions_print x).bind fun _ => (mentions_pass base _).map _
  | chain _ parts => (mentions_printAll parts).map _
  | not c | asCondition _ c | group c => (mentions_print c).map _
  | caseOnly test yes => (mentions_print test).bind fun _ => (mentions_print yes).map _
  | caseElse test yes no =>
      (mentions_print test).bind fun _ => (mentions_print yes).bind fun _ => (mentions_print no).map _

theorem mentions_printAll : ∀ cs : List Clause, Mentions (printAll cs) (slotsAll cs)
  | [] => .pure _
  | c :: cs => (mentions_print c).bind fun _ => (mentions_printAll cs).map _

end

lemma after_render (c : Clause) : Printing.After ((print c).run .start).2 c.slots :=
  mentions_print c .start [] ⟨fun _ => rfl, rfl, rfl⟩

/-- **No value enters the text.** -/
theorem render_text (c : Clause) : c.render.1 = c.blank.render.1 :=
  (indistinct_print c .start .start rfl).1

theorem render_names (c : Clause) : c.render.2.map Prod.fst = names (c.slots.map Prod.fst) :=
  (after_render c).names

theorem render_values (c : Clause) : c.render.2.map Prod.snd = c.slots.map Prod.snd :=
  (after_render c).values

/-! ## The operations that build clauses -/

section Operations

theorem isBoolean_blank : ∀ c : Clause, c.blank.isBoolean = c.isBoolean
  | column _ | null | not _ | truth _ | compare .. | like .. | contains .. | within .. | chain ..
  | asCondition .. => rfl
  | bind _ v => by cases v <;> rfl
  | caseOnly _ c | caseElse _ c _ | group c => isBoolean_blank c

/-- The connectives and the comparisons. -/
def isTest : Clause → Bool
  | compare .. | like .. | contains .. | within .. | chain .. | not _ => true
  | _ => false

variable (ctx : Context) (k : Connective) (c : Clause)

lemma isTest_blank : c.blank.isTest = c.isTest := by cases c <;> rfl

lemma blank_protect : (c.protect ctx).blank = c.blank.protect ctx := by
  have marked : ∀ d : Clause, (if d.isBoolean then asCondition false d else d).blank =
      if d.blank.isBoolean then asCondition false d.blank else d.blank := by
    intro d
    rw [isBoolean_blank]
    exact apply_ite blank _ _ _
  cases c with
  | asCondition | group => rfl
  | chain k parts =>
      simp only [protect, blank]
      split_ifs <;> rfl
  | compare | like | contains | within | not => exact apply_ite blank _ _ _
  | null | truth => cases ctx <;> rfl
  | column | bind | caseOnly | caseElse =>
      cases ctx with
      | connective | condition => exact marked _
      | operand | isolated => rfl

lemma slots_protect : (c.protect ctx).slots = c.slots := by
  have marked : ∀ (b : Bool) (d : Clause), (if b then asCondition false d else d).slots = d.slots := by
    intro b d
    cases b <;> rfl
  have grouped : ∀ (p : Prop) [Decidable p] (d : Clause), (if p then group d else d).slots = d.slots := by
    intro p _ d
    split_ifs <;> rfl
  cases c with
  | asCondition | group => rfl
  | chain k parts =>
      simp only [protect]
      split_ifs <;> rfl
  | compare | like | contains | within | not => exact grouped _ _
  | null | truth => cases ctx <;> rfl
  | column | bind | caseOnly | caseElse =>
      cases ctx with
      | connective | condition => exact marked _ _
      | operand | isolated => rfl

lemma complementRelation_blank (r : Relation) : complementRelation r c.blank = complementRelation r c := by
  have hliteral : c.blank.isLiteral = c.isLiteral := by cases c <;> rfl
  cases r <;> simp only [complementRelation, hliteral]

lemma blank_negate : c.negate.blank = c.blank.negate := by
  have complemented : ∀ d : Clause, (if d.isBoolean then asCondition true d else not d).blank =
      if d.blank.isBoolean then asCondition true d.blank else not d.blank := by
    intro d
    rw [isBoolean_blank]
    exact apply_ite blank _ _ _
  cases c with
  | null | truth | like | contains | within => rfl
  | compare r x y =>
      show compare (complementRelation r y) x.blank y.blank = compare (complementRelation r y.blank) _ _
      rw [complementRelation_blank]
  | asCondition n x => cases x <;> rfl
  | chain | not => exact congrArg not (blank_protect .operand _)
  | column | bind | caseOnly | caseElse | group => exact complemented _

lemma slots_negate : c.negate.slots = c.slots := by
  have complemented : ∀ d : Clause,
      (if d.isBoolean then asCondition true d else not d).slots = d.slots := by
    intro d
    split_ifs <;> rfl
  cases c with
  | null | truth | like | contains | within | compare => rfl
  | asCondition n x => cases x <;> rfl
  | chain | not => exact slots_protect .operand _
  | column | bind | caseOnly | caseElse | group => exact complemented _

lemma isTest_negate (h : c.isTest = true) : c.negate.isTest = true := by
  cases c <;> first | rfl | cases h

lemma blankAll_parts : blankAll (c.parts k) = c.blank.parts k := by
  cases c with
  | chain k' cs =>
      simp only [parts, blank]
      split_ifs <;> rfl
  | _ => rfl

lemma slotsAll_parts : slotsAll (c.parts k) = c.slots := by
  cases c with
  | chain k' cs =>
      simp only [parts]
      split_ifs
      · rfl
      · exact List.append_nil _
  | _ => exact List.append_nil _

variable {l r : Clause}

/-- Two tests are joined in a chain. -/
lemma connect_of_isTest (hl : l.isTest = true) (hr : r.isTest = true) :
    connect k l r =
      chain k ((l.protect (.connective k)).parts k ++ (r.protect (.connective k)).parts k) := by
  unfold connect
  split
  next => cases hl
  next => cases hl
  next => cases hr
  next => rfl

lemma isTest_connect (hl : l.isTest = true) (hr : r.isTest = true) : (connect k l r).isTest = true := by
  rw [connect_of_isTest k hl hr]
  rfl

lemma blank_connect (hl : l.isTest = true) (hr : r.isTest = true) :
    (connect k l r).blank = connect k l.blank r.blank := by
  rw [connect_of_isTest k hl hr,
    connect_of_isTest k ((isTest_blank l).trans hl) ((isTest_blank r).trans hr), blank,
    blankAll_append, blankAll_parts, blankAll_parts, blank_protect, blank_protect]

lemma slots_connect (hl : l.isTest = true) (hr : r.isTest = true) :
    (connect k l r).slots = l.slots ++ r.slots := by
  rw [connect_of_isTest k hl hr, slots, slotsAll_append, slotsAll_parts, slotsAll_parts,
    slots_protect, slots_protect]

lemma blank_comparison (s : Relation) (l m : Clause) :
    (comparison s l m).blank = comparison s l.blank m.blank := by
  rw [comparison, blank, blank_protect, blank_protect, comparison]

lemma slots_comparison (s : Relation) (l m : Clause) :
    (comparison s l m).slots = l.slots ++ m.slots := by
  rw [comparison, slots, slots_protect, slots_protect]

end Operations

end Clause

end Criteria.Sql
