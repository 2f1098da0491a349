import Criteria.Config.Basic
import Criteria.Proofs.Eval.Quiet
import Mathlib

/-!
# Where placeholders lead

The text of a setting may name other settings, whose texts name further ones.  Expanding it follows
these references to a fixed depth.

**What a placeholder stands for.**
* `Verbatim`, `Refers`, `Missing`, `Unreadable` — a text that is taken as it is, the text of a setting
  that has to be expanded in turn, nothing, or something that cannot be read.  There is no fifth case
  (`resolve_cases`).
* `Expanded` — what a text looks like with all placeholders replaced.  No depth is involved.

**How far references lead.**
* `Leads`, `ChainFrom` — from a text to one that it refers to, and so on.
* `Overlong`, `Obstructed` — a chain has too many texts, or meets a placeholder for which there is no
  text.
* `expandTo_fails_iff` — by induction on the depth, these are the only ways to fail.
* `expandTo_of_bodies_eq_nil`, `bodies_eq_nil` — texts that stay as they are.
* **`get_expanded`** — the value of a setting with placeholders.
-/

namespace Criteria

namespace Placeholder

/-- The bodies of the placeholders of a text, from left to right. -/
def bodies (text : String) : List (List Char) :=
  (pieces text.toList).filterMap fun
    | .literal _ => none
    | .slot body => some body

lemma mem_bodies {text : String} {body : List Char} :
    body ∈ bodies text ↔ .slot body ∈ pieces text.toList := by
  rw [bodies, List.mem_filterMap]
  constructor
  · rintro ⟨_ | b, hpiece, hbody⟩
    · cases hbody
    · cases hbody
      exact hpiece
  · intro hpiece
    exact ⟨_, hpiece, rfl⟩

/-- The value of a setting; `none` is no value. -/
def setting? (data : Value) (name : String) : Option Value :=
  (data.lookup name).filter fun v => !v.isNone

/-! ## What a placeholder stands for -/

section Meaning

variable (env : Environment) (data : Value)

/-- No variable has the name in the placeholder, and the setting with this key has the value. -/
def Names (body : List Char) (v : Value) : Prop :=
  env.read (parts body).1 = .ok none ∧ setting? data (parts body).1 = some v

/-- The placeholder stands for the text as it is. -/
inductive Verbatim (body : List Char) : String → Prop where
  | variable {text : String} : env.read (parts body).1 = .ok (some text) → Verbatim body text
  | setting {v : Value} : Names env data body v → v.isWritable = true → mayHold v.text = false →
      Verbatim body v.text
  | fallback {text : String} : env.read (parts body).1 = .ok none →
      setting? data (parts body).1 = none → (parts body).2 = some text → Verbatim body text

/-- The placeholder stands for the text of a setting, which may hold placeholders itself. -/
def Refers (body : List Char) (text : String) : Prop :=
  ∃ v, Names env data body v ∧ v.isWritable = true ∧ v.text = text ∧ mayHold text = true

/-- There is neither a variable nor a setting with the name, nor a fallback. -/
def Missing (body : List Char) : Prop :=
  env.read (parts body).1 = .ok none ∧ setting? data (parts body).1 = none ∧ (parts body).2 = none

/-- There are no bytes for the name, or there is no text for the value of the setting. -/
def Unreadable (body : List Char) : Prop :=
  (∃ f, env.read (parts body).1 = .error f) ∨ ∃ v, Names env data body v ∧ v.isWritable = false

/-- The texts that the pieces of a text are replaced by, joined. -/
inductive Fills : List Piece → String → Prop where
  | nil : Fills [] ""
  | literal (cs : List Char) {ps : List Piece} {rest : String} :
      Fills ps rest → Fills (.literal cs :: ps) (String.ofList cs ++ rest)
  | verbatim {body : List Char} {text rest : String} {ps : List Piece} :
      Verbatim env data body text → Fills ps rest → Fills (.slot body :: ps) (text ++ rest)
  | refers {body : List Char} {text inner rest : String} {ps : List Piece} :
      Refers env data body text → Fills (pieces text.toList) inner → Fills ps rest →
      Fills (.slot body :: ps) (inner ++ rest)

/-- The text with every placeholder replaced, and those in the texts of settings before. -/
def Expanded (text result : String) : Prop := Fills env data (pieces text.toList) result

end Meaning

section Resolving

variable {env : Environment} {data : Value} {body : List Char} {text : String}
  {expand : String → Except Fault String}

lemma isValue_of_read {name : String} {f : Fault} (h : env.read name = .error f) :
    f.kind.isValue = true := by
  rw [Environment.read] at h
  split at h
  next => cases h
  next =>
    cases h
    rfl

/-- A setting that has a value is looked up. -/
lemma lookup_of_setting? {name : String} {v : Value} (h : setting? data name = some v) :
    (data.lookup name).getD .none = v ∧ v ≠ .none := by
  obtain ⟨hlookup, hvalue⟩ := Option.filter_eq_some_iff.mp h
  refine ⟨by rw [hlookup, Option.getD_some], ?_⟩
  rintro rfl
  cases hvalue

lemma lookup_of_setting?_none {name : String} (h : setting? data name = none) :
    (data.lookup name).getD .none = .none := by
  cases hlookup : data.lookup name with
  | none => rfl
  | some v =>
      rw [setting?, hlookup] at h
      cases v <;> first | rfl | cases h

lemma resolve_setting {v : Value} (h : Names env data body v) :
    resolve env data expand body = if !v.isWritable then .error .unwritableInteger
      else if mayHold v.text then expand v.text else .ok v.text := by
  obtain ⟨hread, hset⟩ := h
  obtain ⟨hlookup, hne⟩ := lookup_of_setting? hset
  unfold resolve
  simp only [hread, hlookup]
  cases v <;> first | rfl | exact absurd rfl hne

lemma resolve_verbatim (h : Verbatim env data body text) :
    resolve env data expand body = .ok text := by
  cases h with
  | «variable» hread =>
      unfold resolve
      simp only [hread]
  | setting hnames hwritable hplain =>
      rw [resolve_setting hnames, hwritable, hplain]
      rfl
  | fallback hread hset hfallback =>
      unfold resolve
      simp only [hread, lookup_of_setting?_none hset, hfallback]

lemma resolve_refers (h : Refers env data body text) :
    resolve env data expand body = expand text := by
  obtain ⟨v, hnames, hwritable, rfl, hholds⟩ := h
  rw [resolve_setting hnames, hwritable, hholds]
  rfl

/-- Where a placeholder has no text, it does not matter how others are expanded. -/
lemma resolve_fails (h : Missing env data body ∨ Unreadable env data body) :
    ∃ f : Fault, f.kind.isValue = true ∧ ∀ expand, resolve env data expand body = .error f := by
  rcases h with ⟨hread, hset, hfallback⟩ | ⟨f, hread⟩ | ⟨v, hnames, hwritable⟩
  · refine ⟨.unresolvedPlaceholder (String.ofList body), rfl, fun expand => ?_⟩
    unfold resolve
    simp only [hread, lookup_of_setting?_none hset, hfallback]
  · refine ⟨f, isValue_of_read hread, fun expand => ?_⟩
    unfold resolve
    simp only [hread]
  · refine ⟨.unwritableInteger, rfl, fun expand => ?_⟩
    rw [resolve_setting hnames, hwritable]
    rfl

/-- **Every placeholder stands for something**, or for nothing that could be read. -/
theorem resolve_cases (env : Environment) (data : Value) (body : List Char) :
    (∃ text, Verbatim env data body text) ∨ (∃ text, Refers env data body text) ∨
      Missing env data body ∨ Unreadable env data body := by
  cases hread : env.read (parts body).1 with
  | error f => exact .inr (.inr (.inr (.inl ⟨f, hread⟩)))
  | ok found =>
      cases found with
      | some text => exact .inl ⟨text, .variable hread⟩
      | none =>
          cases hset : setting? data (parts body).1 with
          | some v =>
              have hnames : Names env data body v := ⟨hread, hset⟩
              cases hwritable : v.isWritable with
              | false => exact .inr (.inr (.inr (.inr ⟨v, hnames, hwritable⟩)))
              | true =>
                  cases hholds : mayHold v.text with
                  | false => exact .inl ⟨v.text, .setting hnames hwritable hholds⟩
                  | true => exact .inr (.inl ⟨v.text, v, hnames, hwritable, rfl, hholds⟩)
          | none =>
              cases hfallback : (parts body).2 with
              | some text => exact .inl ⟨text, .fallback hread hset hfallback⟩
              | none => exact .inr (.inr (.inl ⟨hread, hset, hfallback⟩))

/-- What the placeholder stands for if it can be resolved. -/
lemma resolve_eq_ok {result : String} (h : resolve env data expand body = .ok result) :
    Verbatim env data body result ∨ ∃ text, Refers env data body text ∧ expand text = .ok result := by
  rcases resolve_cases env data body with ⟨text, hverbatim⟩ | ⟨text, hrefers⟩ | hnothing
  · rw [resolve_verbatim hverbatim] at h
    cases h
    exact .inl hverbatim
  · rw [resolve_refers hrefers] at h
    exact .inr ⟨text, hrefers, h⟩
  · obtain ⟨f, -, hf⟩ := resolve_fails hnothing
    rw [hf] at h
    cases h

/-- Why a placeholder cannot be resolved. -/
lemma resolve_eq_error {f : Fault} (h : resolve env data expand body = .error f) :
    ((Missing env data body ∨ Unreadable env data body) ∧ f.kind.isValue = true) ∨
      ∃ text, Refers env data body text ∧ expand text = .error f := by
  rcases resolve_cases env data body with ⟨text, hverbatim⟩ | ⟨text, hrefers⟩ | hnothing
  · rw [resolve_verbatim hverbatim] at h
    cases h
  · rw [resolve_refers hrefers] at h
    exact .inr ⟨text, hrefers, h⟩
  · obtain ⟨_, hvalue, hf⟩ := resolve_fails hnothing
    rw [hf] at h
    cases h
    exact .inl ⟨hnothing, hvalue⟩

end Resolving

/-! ## The expanded text -/

section Expanding

variable {env : Environment} {data : Value}

/-- What pieces are replaced by if their placeholders can be resolved. -/
lemma fills_of_substitute {expand : String → Except Fault String}
    (sound : ∀ {text result}, expand text = .ok result → Expanded env data text result)
    {ps : List Piece} {result : String}
    (h : substitute (resolve env data expand) ps = .ok result) : Fills env data ps result := by
  induction ps generalizing result with
  | nil =>
      cases h
      exact .nil
  | cons p ps ih =>
      cases p with
      | literal cs =>
          obtain ⟨rest, hrest, h⟩ := bind_eq_ok.mp h
          cases h
          exact .literal cs (ih hrest)
      | slot body =>
          obtain ⟨filled, hfilled, h⟩ := bind_eq_ok.mp h
          obtain ⟨rest, hrest, h⟩ := bind_eq_ok.mp h
          cases h
          rcases resolve_eq_ok hfilled with hverbatim | ⟨text, hrefers, hexpand⟩
          · exact .verbatim hverbatim (ih hrest)
          · exact .refers hrefers (sound hexpand) (ih hrest)

/-- **What comes out is the expanded text**, by induction on the depth. -/
theorem expanded_of_expandTo {depth : Nat} {text result : String}
    (h : expandTo env data depth text = .ok result) : Expanded env data text result := by
  induction depth generalizing text result with
  | zero => cases h
  | succ depth ih => exact fills_of_substitute ih h

/-- A text has only one expansion. -/
theorem fills_unique {ps : List Piece} {result result' : String} (h : Fills env data ps result)
    (h' : Fills env data ps result') : result = result' := by
  -- no placeholder is both taken as it is and expanded, as the two resolve differently
  have exclusive : ∀ {body text text'}, Verbatim env data body text →
      ¬ Refers env data body text' := by
    intro body text text' hverbatim hrefers
    have hok : resolve env data (fun _ => .error .tooDeep) body = .ok text :=
      resolve_verbatim hverbatim
    rw [resolve_refers hrefers] at hok
    cases hok
  induction h generalizing result' with
  | nil =>
      cases h'
      rfl
  | literal cs _ ih =>
      cases h' with
      | literal _ hrest => rw [ih hrest]
  | verbatim hverbatim _ ih =>
      cases h' with
      | verbatim hverbatim' hrest =>
          have hsame : resolve env data .ok _ = _ := resolve_verbatim hverbatim
          rw [resolve_verbatim hverbatim'] at hsame
          cases hsame
          rw [ih hrest]
      | refers hrefers => exact absurd hrefers (exclusive hverbatim)
  | refers hrefers _ _ ihInner ih =>
      cases h' with
      | verbatim hverbatim => exact absurd hrefers (exclusive hverbatim)
      | refers hrefers' hinner hrest =>
          have hsame : resolve env data .ok _ = _ := resolve_refers hrefers
          rw [resolve_refers hrefers'] at hsame
          cases hsame
          rw [ihInner hinner, ih hrest]

end Expanding

/-! ## Chains -/

section Chains

variable (env : Environment) (data : Value)

/-- A placeholder of the first text refers to the second one. -/
def Leads (text next : String) : Prop := ∃ body ∈ bodies text, Refers env data body next

/-- A list of texts, each of which leads to the next one; `text` is the first. -/
def ChainFrom (text : String) (chain : List String) : Prop :=
  chain.head? = some text ∧ chain.IsChain (Leads env data)

/-- A chain from the text has more than `n` texts. -/
def Overlong (n : Nat) (text : String) : Prop :=
  ∃ chain, ChainFrom env data text chain ∧ n < chain.length

/-- Among the first `n` texts of a chain from the text, there is one with a placeholder for which there
is no text. -/
def Obstructed (n : Nat) (text : String) : Prop :=
  ∃ chain, ChainFrom env data text chain ∧ ∃ t ∈ chain.take n, ∃ body ∈ bodies t,
    Missing env data body ∨ Unreadable env data body

end Chains

section Following

variable {env : Environment} {data : Value} {n : Nat} {text next : String} {chain : List String}

lemma chainFrom_singleton (text : String) : ChainFrom env data text [text] :=
  ⟨rfl, .singleton text⟩

/-- A chain may be continued to the front. -/
lemma ChainFrom.cons (hleads : Leads env data text next) (h : ChainFrom env data next chain) :
    ChainFrom env data text (text :: chain) := by
  obtain ⟨hhead, hchain⟩ := h
  cases chain with
  | nil => cases hhead
  | cons t ts =>
      cases hhead
      exact ⟨rfl, List.isChain_cons_cons.mpr ⟨hleads, hchain⟩⟩

/-- A chain is the text alone, or goes on from a text to which that leads. -/
lemma ChainFrom.eq_cons (h : ChainFrom env data text chain) :
    chain = [text] ∨ ∃ next rest, chain = text :: rest ∧ Leads env data text next ∧
      ChainFrom env data next rest := by
  obtain ⟨hhead, hchain⟩ := h
  match chain with
  | [t] =>
      cases hhead
      exact .inl rfl
  | t :: next :: ts =>
      cases hhead
      obtain ⟨hleads, hrest⟩ := List.isChain_cons_cons.mp hchain
      exact .inr ⟨next, next :: ts, rfl, hleads, rfl, hrest⟩

/-- From a text that leads nowhere there is only one chain. -/
lemma ChainFrom.eq_singleton (h : ChainFrom env data text chain)
    (ends : ∀ next, ¬ Leads env data text next) : chain = [text] := by
  obtain hsingle | ⟨next, _, -, hleads, -⟩ := h.eq_cons
  · exact hsingle
  · exact absurd hleads (ends next)

lemma overlong_zero (text : String) : Overlong env data 0 text :=
  ⟨[text], chainFrom_singleton text, Nat.zero_lt_one⟩

/-- A chain that is too long goes on along a chain that is too long. -/
lemma overlong_succ_iff :
    Overlong env data (n + 1) text ↔ ∃ next, Leads env data text next ∧ Overlong env data n next := by
  constructor
  · rintro ⟨chain, hchain, hlength⟩
    obtain rfl | ⟨next, rest, rfl, hleads, hrest⟩ := hchain.eq_cons
    · simp at hlength
    · exact ⟨next, hleads, rest, hrest, Nat.lt_of_succ_lt_succ hlength⟩
  · rintro ⟨next, hleads, rest, hrest, hlength⟩
    exact ⟨text :: rest, hrest.cons hleads, Nat.succ_lt_succ hlength⟩

/-- A chain meets a placeholder without a text at its start, or further on. -/
lemma obstructed_succ_iff :
    Obstructed env data (n + 1) text ↔
      (∃ body ∈ bodies text, Missing env data body ∨ Unreadable env data body) ∨
        ∃ next, Leads env data text next ∧ Obstructed env data n next := by
  constructor
  · rintro ⟨chain, hchain, t, ht, hbody⟩
    obtain rfl | ⟨next, rest, rfl, hleads, hrest⟩ := hchain.eq_cons
    · obtain rfl := List.mem_singleton.mp (List.mem_of_mem_take ht)
      exact .inl hbody
    · rw [List.take_succ_cons, List.mem_cons] at ht
      rcases ht with rfl | ht
      · exact .inl hbody
      · exact .inr ⟨next, hleads, rest, hrest, t, ht, hbody⟩
  · rintro (hbody | ⟨next, hleads, rest, hrest, t, ht, hbody⟩)
    · exact ⟨[text], chainFrom_singleton text, text, by simp, hbody⟩
    · refine ⟨text :: rest, hrest.cons hleads, t, ?_, hbody⟩
      rw [List.take_succ_cons]
      exact List.mem_cons_of_mem _ ht

/-- References that lead back to where they came from can be followed for ever. -/
theorem overlong_of_cycle (reach : Relation.ReflTransGen (Leads env data) text next)
    (back : Relation.TransGen (Leads env data) next next) (n : Nat) : Overlong env data n text := by
  have further : ∀ {n t u}, Relation.ReflTransGen (Leads env data) t u →
      Overlong env data n u → Overlong env data n t := by
    intro n t u h
    induction h using Relation.ReflTransGen.head_induction_on with
    | refl => exact id
    | head hleads _ ih =>
        intro hu
        obtain ⟨chain, hchain, hlength⟩ := ih hu
        exact ⟨_, hchain.cons hleads, Nat.lt_succ_of_lt hlength⟩
  refine further reach ?_
  obtain ⟨u, hleads, hreturn⟩ := Relation.TransGen.head'_iff.mp back
  induction n with
  | zero => exact overlong_zero next
  | succ n ih => exact overlong_succ_iff.mpr ⟨u, hleads, further hreturn ih⟩

/-! ## Failures -/

/-- Pieces cannot be replaced if one of the placeholders cannot be resolved. -/
lemma substitute_fails_iff {resolve : List Char → Except Fault String} {ps : List Piece} :
    (∃ f, substitute resolve ps = .error f) ↔
      ∃ body, .slot body ∈ ps ∧ ∃ f, resolve body = .error f := by
  induction ps with
  | nil => simp [substitute]
  | cons p ps ih =>
      have hbind : ∀ (text : String), (∃ f, (do return text ++ (← substitute resolve ps)) =
          Except.error f) ↔ ∃ f, substitute resolve ps = .error f := by
        intro text
        cases substitute resolve ps <;> simp [bind, Except.bind, pure, Except.pure]
      cases p with
      | literal cs =>
          rw [substitute, hbind, ih]
          simp
      | slot body =>
          rw [substitute]
          cases hbody : resolve body with
          | error f =>
              refine ⟨fun _ => ⟨body, List.mem_cons_self, f, hbody⟩, fun _ => ⟨f, rfl⟩⟩
          | ok text =>
              refine (hbind text).trans (ih.trans ?_)
              constructor
              · rintro ⟨b, hb, hf⟩
                exact ⟨b, List.mem_cons_of_mem _ hb, hf⟩
              · rintro ⟨b, hb, f, hf⟩
                rcases List.mem_cons.mp hb with heq | hb
                · cases heq
                  rw [hbody] at hf
                  cases hf
                · exact ⟨b, hb, f, hf⟩

lemma substitute_eq_error {resolve : List Char → Except Fault String} {ps : List Piece} {f : Fault}
    (h : substitute resolve ps = .error f) : ∃ body, resolve body = .error f := by
  induction ps with
  | nil => cases h
  | cons p ps ih =>
      cases p with
      | literal cs =>
          rcases bind_eq_error.mp h with h | ⟨_, -, h⟩
          · exact ih h
          · cases h
      | slot body =>
          rcases bind_eq_error.mp h with h | ⟨_, -, h⟩
          · exact ⟨body, h⟩
          · rcases bind_eq_error.mp h with h | ⟨_, -, h⟩
            · exact ih h
            · cases h

/-- **Expanding fails along a chain that is too long, or one that meets a placeholder without a text**,
by induction on the depth. -/
theorem expandTo_fails_iff :
    (∃ f, expandTo env data n text = .error f) ↔
      Overlong env data n text ∨ Obstructed env data n text := by
  induction n generalizing text with
  | zero => exact ⟨fun _ => .inl (overlong_zero text), fun _ => ⟨_, rfl⟩⟩
  | succ n ih =>
      rw [expandTo, substitute_fails_iff, overlong_succ_iff, obstructed_succ_iff]
      constructor
      · rintro ⟨body, hbody, f, hf⟩
        rw [← mem_bodies] at hbody
        rcases resolve_eq_error hf with ⟨hnothing, -⟩ | ⟨next, hrefers, hnext⟩
        · exact .inr (.inl ⟨body, hbody, hnothing⟩)
        · have hleads : Leads env data text next := ⟨body, hbody, hrefers⟩
          exact (ih.mp ⟨f, hnext⟩).imp (fun h => ⟨next, hleads, h⟩) fun h => .inr ⟨next, hleads, h⟩
      · have along : ∀ next, Leads env data text next →
            Overlong env data n next ∨ Obstructed env data n next →
            ∃ body, .slot body ∈ pieces text.toList ∧
              ∃ f, resolve env data (expandTo env data n) body = .error f := by
          rintro next ⟨body, hbody, hrefers⟩ hnext
          obtain ⟨f, hf⟩ := ih.mpr hnext
          exact ⟨body, mem_bodies.mp hbody, f, by rw [resolve_refers hrefers, hf]⟩
        rintro (⟨next, hleads, h⟩ | ⟨body, hbody, hnothing⟩ | ⟨next, hleads, h⟩)
        · exact along next hleads (.inl h)
        · obtain ⟨f, -, hf⟩ := resolve_fails hnothing
          exact ⟨body, mem_bodies.mp hbody, f, hf _⟩
        · exact along next hleads (.inr h)

/-- All of these faults are about a value. -/
lemma isValue_of_expandTo {f : Fault} (h : expandTo env data n text = .error f) :
    f.kind.isValue = true := by
  induction n generalizing text with
  | zero =>
      cases h
      rfl
  | succ n ih =>
      obtain ⟨body, hbody⟩ := substitute_eq_error h
      rcases resolve_eq_error hbody with ⟨-, hvalue⟩ | ⟨next, -, hnext⟩
      · exact hvalue
      · exact ih hnext

end Following

/-! ## Texts without placeholders -/

/-- A run of a text occurs in it. -/
lemma occursIn_append {part before after : List Char} :
    occursIn part (before ++ part ++ after) = true := by
  induction before with
  | nil =>
      cases h : part ++ after with
      | nil =>
          obtain ⟨rfl, rfl⟩ := List.append_eq_nil_iff.mp h
          rfl
      | cons c cs =>
          have hprefix : part.isPrefixOf (c :: cs) = true :=
            List.isPrefixOf_iff_prefix.mpr ⟨after, h⟩
          rw [List.nil_append, h, occursIn, hprefix, Bool.true_or]
  | cons c before ih => rw [List.cons_append, List.cons_append, occursIn, ih, Bool.or_true]

section Plain

variable {env : Environment} {data : Value} {text : String}

/-- Pieces without placeholders are replaced by themselves. -/
lemma substitute_of_literals {resolve : List Char → Except Fault String} {ps : List Piece}
    (h : ∀ body, .slot body ∉ ps) :
    substitute resolve ps = .ok (String.ofList (ps.flatMap Piece.chars)) := by
  induction ps with
  | nil => rfl
  | cons p ps ih =>
      cases p with
      | literal cs =>
          have hrest := ih fun body hbody => h body (List.mem_cons_of_mem _ hbody)
          rw [substitute, hrest, List.flatMap_cons, String.ofList_append]
          rfl
      | slot body => exact absurd List.mem_cons_self (h body)

/-- A text without placeholders is its own expansion. -/
lemma expandTo_of_bodies_eq_nil (h : bodies text = []) (depth : Nat) :
    expandTo env data (depth + 1) text = .ok text := by
  have literals : ∀ body, .slot body ∉ pieces text.toList := fun body hbody =>
    List.not_mem_nil (h ▸ mem_bodies.mpr hbody)
  rw [expandTo, substitute_of_literals literals, render_pieces, String.ofList_toList]

/-- Without a dollar sign and a brace there are no placeholders. -/
lemma bodies_eq_nil (h : mayHold text = false) : bodies text = [] := by
  rw [List.eq_nil_iff_forall_not_mem]
  intro body hbody
  obtain ⟨before, after, hpieces⟩ := List.append_of_mem (mem_bodies.mp hbody)
  have htext := render_pieces text.toList
  rw [hpieces, List.flatMap_append, List.flatMap_cons, Piece.chars] at htext
  have hoccurs : occursIn ['$', '\x7b'] text.toList = true := by
    rw [← htext]
    convert @occursIn_append ['$', '\x7b'] (before.flatMap Piece.chars)
      (body ++ ['\x7d'] ++ after.flatMap Piece.chars) using 2
    simp
  rw [mayHold, hoccurs] at h
  cases h

end Plain

end Placeholder

namespace Config

open Placeholder

variable {c : Config} {env : Environment} {key text : String}

/-- A setting with placeholders that no variable overrides is expanded. -/
lemma get_of_mayHold (free : env.override? key = .ok none)
    (set : c.data.lookup key = some (.str text)) (holds : mayHold text = true) (default : Value) :
    c.get env key default = (expandTo env c.data 11 text).map .str := by
  rw [get, free]
  simp only [set, Option.getD_some]
  rw [if_pos holds]
  rfl

lemma get_fails_iff (free : env.override? key = .ok none)
    (set : c.data.lookup key = some (.str text)) (holds : mayHold text = true) (default : Value) :
    (∃ f, c.get env key default = .error f) ↔
      Overlong env c.data 11 text ∨ Obstructed env c.data 11 text := by
  rw [get_of_mayHold free set holds, ← expandTo_fails_iff]
  cases expandTo env c.data 11 text <;> simp [Except.map]

/-- A setting without placeholders that no variable overrides is answered as it is. -/
lemma get_of_bodies_eq_nil {v : Value} (free : env.override? key = .ok none)
    (set : c.data.lookup key = some v) (present : v ≠ .none)
    (plain : ∀ t, v = .str t → bodies t = []) (default : Value) : c.get env key default = .ok v := by
  rw [get, free]
  simp only [set, Option.getD_some]
  cases v with
  | none => exact absurd rfl present
  | str t =>
      show (if mayHold t then (expandTo env c.data 11 t).map Value.str else _) = _
      rw [expandTo_of_bodies_eq_nil (plain t rfl)]
      split_ifs
      · rfl
      · rfl
  | _ => rfl

/-- **Expanding a setting.**  Let the text of a setting hold a dollar sign and a brace, and let no
variable override it.  There is no value exactly if a chain of texts from it has more than eleven, or
one of the first eleven texts of a chain has a placeholder for which there is no text: neither a
variable nor a setting nor a fallback, or no bytes for the name, or a setting with an integer of too
many digits.  The fault is about a value then.  Otherwise the value is the text in which every
placeholder is replaced by that of a variable, of a setting after it was expanded in the same way, or
by its fallback.  References that lead back to where they came from are among the chains that are too
long. -/
theorem get_expanded (free : env.override? key = .ok none)
    (set : c.data.lookup key = some (.str text)) (holds : mayHold text = true) (default : Value) :
    ((∃ f, c.get env key default = .error f) ↔
      Overlong env c.data 11 text ∨ Obstructed env c.data 11 text) ∧
    (∀ f, c.get env key default = .error f → f.kind.isValue = true) ∧
    (∀ v, c.get env key default = .ok v ↔
      ¬ (Overlong env c.data 11 text ∨ Obstructed env c.data 11 text) ∧
        ∃ result, v = .str result ∧ Expanded env c.data text result) ∧
    ∀ next, Relation.ReflTransGen (Leads env c.data) text next →
      Relation.TransGen (Leads env c.data) next next → Overlong env c.data 11 text := by
  refine ⟨get_fails_iff free set holds default, ?isValue, ?succeeds,
    fun next reach back => overlong_of_cycle reach back 11⟩
  all_goals rw [get_of_mayHold free set holds]
  case isValue =>
    intro f hf
    cases h : expandTo env c.data 11 text with
    | error f' =>
        rw [h] at hf
        cases hf
        exact isValue_of_expandTo h
    | ok result =>
        rw [h] at hf
        cases hf
  case succeeds =>
    intro v
    rw [← expandTo_fails_iff]
    cases h : expandTo env c.data 11 text with
    | error f => simp [Except.map]
    | ok result =>
        have hresult := expanded_of_expandTo h
        constructor
        · intro hv
          cases hv
          exact ⟨by simp, result, rfl, hresult⟩
        · rintro ⟨-, result', rfl, hresult'⟩
          rw [fills_unique hresult' hresult]
          rfl

/-- The variable of a key is not set. -/
lemma override?_eq_none (name : String) (hname : Environment.variableName key = name)
    (hread : env.read name = .ok none) : env.override? key = .ok none := by
  rw [Environment.override?, hname, hread]

/-- Settings that refer to others. -/
def crossReferences : Config :=
  ⟨.map [(.str "url", .str "$\x7bSCHEME\x7d://$\x7bapp.host\x7d/$\x7bpath:home\x7d"),
    (.str "app", .map [(.str "host", .str "h-$\x7bapp.name\x7d"), (.str "name", .str "n1")]),
    (.str "a", .str "$\x7bb\x7d"), (.str "b", .str "x$\x7ba\x7dy")], []⟩

/-- A variable, a setting with a placeholder and a fallback in one text; and two texts that refer to
each other. -/
theorem get_expanded_crossReferences :
    let env : Environment := ⟨[("SCHEME", "https")]⟩
    let url := "$\x7bSCHEME\x7d://$\x7bapp.host\x7d/$\x7bpath:home\x7d"
    (crossReferences.get env "url" .none = .ok (.str "https://h-n1/home") ∧
      Expanded env crossReferences.data url "https://h-n1/home" ∧
      ¬ Overlong env crossReferences.data 11 url) ∧
    ∃ f, crossReferences.get env "a" .none = .error f ∧ f.kind.isValue = true := by
  intro env url
  have free : env.override? "url" = .ok none :=
    override?_eq_none "SPECLOGIC_URL" (by decide +kernel) rfl
  have free' : env.override? "a" = .ok none :=
    override?_eq_none "SPECLOGIC_A" (by decide +kernel) rfl
  have set : crossReferences.data.lookup "url" = some (.str url) := rfl
  have set' : crossReferences.data.lookup "a" = some (.str "$\x7bb\x7d") := rfl
  constructor
  · have value : crossReferences.get env "url" .none = .ok (.str "https://h-n1/home") := by
      rw [get, free]
      cbv
    obtain ⟨-, -, hvalue, -⟩ := get_expanded free set (by decide) .none
    obtain ⟨hends, result, hresult, hexpanded⟩ := (hvalue _).mp value
    cases hresult
    exact ⟨value, hexpanded, fun h => hends (.inl h)⟩
  · have hb : bodies "$\x7bb\x7d" = [['b']] := by cbv
    have ha : bodies "x$\x7ba\x7dy" = [['a']] := by cbv
    have there : Leads env crossReferences.data "$\x7bb\x7d" "x$\x7ba\x7dy" :=
      ⟨['b'], hb ▸ List.mem_singleton_self _, _, ⟨rfl, rfl⟩, rfl, rfl, rfl⟩
    have back : Leads env crossReferences.data "x$\x7ba\x7dy" "$\x7bb\x7d" :=
      ⟨['a'], ha ▸ List.mem_singleton_self _, _, ⟨rfl, rfl⟩, rfl, rfl, rfl⟩
    obtain ⟨hfails, hkind, -, hcircle⟩ := get_expanded free' set' (by decide) .none
    obtain ⟨f, hf⟩ := hfails.mpr (.inl (hcircle _ .refl (.head there (.single back))))
    exact ⟨f, hf, hkind f hf⟩

/-- No chain from the text is too long, and for each placeholder in it there is a variable, a setting
or a fallback, unless it has a name that cannot be looked up. -/
def Followable (env : Environment) (data : Value) (text : String) : Prop :=
  ¬ Overlong env data 11 text ∧ ∀ chain, ChainFrom env data text chain → ∀ t ∈ chain.take 11,
    ∀ body ∈ bodies t, ¬ Missing env data body

/-- With one placeholder, which cannot be read, a text can be followed but has no value. -/
lemma followable_of_unreadable (body : List Char) (free : env.override? key = .ok none)
    (set : c.data.lookup key = some (.str text)) (holds : mayHold text = true)
    (single : bodies text = [body]) (unreadable : Unreadable env c.data body) :
    Followable env c.data text ∧ ∃ f, c.get env key .none = .error f := by
  have only : ∀ {b}, b ∈ bodies text → b = body := fun hb => by
    rwa [single, List.mem_singleton] at hb
  have ends : ∀ next, ¬ Leads env c.data text next := by
    rintro next ⟨b, hb, v, ⟨hread, hset⟩, hwritable, -⟩
    obtain rfl := only hb
    rcases unreadable with ⟨f, hread'⟩ | ⟨v', hnames, hwritable'⟩
    · rw [hread] at hread'
      cases hread'
    · rw [hnames.2] at hset
      cases hset
      rw [hwritable] at hwritable'
      cases hwritable'
  refine ⟨⟨?_, ?_⟩, (get_fails_iff free set holds .none).mpr (.inr ?_)⟩
  · rintro ⟨chain, hchain, hlength⟩
    rw [hchain.eq_singleton ends] at hlength
    simp at hlength
  · rintro chain hchain t ht b hb ⟨hread, hset, -⟩
    rw [hchain.eq_singleton ends] at ht
    obtain rfl := List.mem_singleton.mp (List.mem_of_mem_take ht)
    obtain rfl := only hb
    rcases unreadable with ⟨f, hread'⟩ | ⟨v, hnames, -⟩
    · rw [hread] at hread'
      cases hread'
    · rw [hnames.2] at hset
      cases hset
  · exact ⟨[text], chainFrom_singleton text, text, by simp, body,
      single ▸ List.mem_singleton_self body, .inr unreadable⟩

/-- A placeholder with a fallback, whose name is half a character. -/
def halfNamed : String :=
  String.ofList ['$', '\x7b', Text.ofCodePoint 0xd800, ':', 'x', '\x7d']

/-- Settings that refer to an integer of 4301 digits, and to a name without bytes. -/
def unreadableReferences : Config :=
  ⟨.map [(.str "t", .str "$\x7bn\x7d"), (.str "n", .int (10 ^ 4300)), (.str "u", .str halfNamed)], []⟩

/-- It is not enough that chains end and that each placeholder has a variable, a setting or a
fallback: an integer may be too long to be written, and the name of a variable must have bytes. -/
theorem get_unreadableReferences :
    (unreadableReferences.data.lookup "t" = some (.str "$\x7bn\x7d") ∧
      Followable ⟨[]⟩ unreadableReferences.data "$\x7bn\x7d" ∧
      ∃ f, unreadableReferences.get ⟨[]⟩ "t" .none = .error f) ∧
    unreadableReferences.data.lookup "u" = some (.str halfNamed) ∧
      Followable ⟨[]⟩ unreadableReferences.data halfNamed ∧
      ∃ f, unreadableReferences.get ⟨[]⟩ "u" .none = .error f := by
  refine ⟨⟨rfl, followable_of_unreadable ['n'] ?_ rfl (by decide) (by cbv) ?_⟩, rfl,
    followable_of_unreadable [Text.ofCodePoint 0xd800, ':', 'x'] ?_ rfl (by decide) (by cbv) ?_⟩
  · exact override?_eq_none "SPECLOGIC_T" (by decide +kernel) rfl
  · exact .inr ⟨.int (10 ^ 4300), ⟨rfl, rfl⟩, by decide +kernel⟩
  · exact override?_eq_none "SPECLOGIC_U" (by decide +kernel) rfl
  · exact .inl ⟨_, rfl⟩

end Config

end Criteria
