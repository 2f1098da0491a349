import Criteria.Proofs.Config.Expansion
import Criteria.Proofs.Config.Search
import Criteria.Proofs.Text.Spelling
import Mathlib

/-!
# Binding what was written

The values of a class of properties can be written in many ways: in the section of the class under
either spelling of a field's name, or in the field's variable, as such or as text; and a default need
not be written.  Binding reads the same values from all of them.

**What is written.**
* `Spelled` — a value or a text that is read as it; a numeral must not have too many digits.
* `Place`, `Config.Writes` — where it stands.

**What is read.**
* `exists_variableName` — both spellings of a name have one variable, and names that differ in more
  than letter case have different ones.
* `lookup_field` — what a key below a section leads to is what the section holds.
* `Reads`, `exists_reads` — for a field that is written, a spelling of its value is read.
* `fieldValues_eq`, `readAll_named`, `fill_named` — the three steps of binding, field by field.
* **`bind_written`** — so binding gives the values back.
-/

namespace Criteria

open Text (upperCase)

/-! ## Names -/

/-- A name without dots and hyphens. -/
structure IsIdentifier (name : String) : Prop where
  dotless : '.' ∉ name.toList
  unhyphenated : '-' ∉ name.toList

lemma dotless_hyphenated {name : String} (h : '.' ∉ name.toList) : '.' ∉ (hyphenated name).toList := by
  rw [hyphenated, String.toList_ofList, List.mem_map]
  rintro ⟨c, hc, heq⟩
  split_ifs at heq
  · exact absurd heq (by decide)
  · exact h (heq ▸ hc)

namespace Environment

/-- A prefix that ends in a dot ends before a name without dots. -/
lemma prefix_append_iff {own before name : List Char} (h : '.' ∉ name) :
    own ++ ['.'] <+: before ++ name ↔ own ++ ['.'] <+: before := by
  refine ⟨fun hbegins => ?_, fun hbegins => hbegins.trans (List.prefix_append _ _)⟩
  rcases List.prefix_or_prefix_of_prefix hbegins (List.prefix_append before name) with hle | ⟨rest, hrest⟩
  · exact hle
  · rcases List.eq_nil_or_concat rest with rfl | ⟨rest', c, rfl⟩
    · rw [List.append_nil] at hrest
      exact hrest ▸ List.prefix_rfl
    · -- the dot at the end would stand in the name
      rw [← hrest, List.prefix_append_right_inj] at hbegins
      rw [List.concat_eq_append, ← List.append_assoc] at hrest
      have hc : c = '.' := by simpa using (List.append_inj' hrest rfl).2
      refine absurd (hbegins.subset ?_) h
      simp [hc]

/-- What stands before the name in a key below the root does not depend on the name. -/
lemma exists_relativeKey (key : String) :
    ∃ start, ∀ name : String, '.' ∉ name.toList →
      relativeKey (key ++ "." ++ name) = start ++ name.toList := by
  have hown : (root ++ ".").toList = "speclogic".toList ++ ['.'] := by decide
  have hkey : ∀ name, (key ++ "." ++ name).toList = (key ++ ".").toList ++ name.toList :=
    fun name => String.toList_append
  by_cases hbegins : (root ++ ".").toList <+: (key ++ ".").toList
  · refine ⟨(key ++ ".").toList.drop (root ++ ".").toList.length, fun name h => ?_⟩
    have hlonger : (root ++ ".").toList <+: (key ++ ".").toList ++ name.toList :=
      hbegins.trans (List.prefix_append _ _)
    rw [relativeKey, hkey, if_pos (List.isPrefixOf_iff_prefix.mpr hlonger),
      List.drop_append_of_le_length hbegins.length_le]
  · refine ⟨(key ++ ".").toList, fun name h => ?_⟩
    rw [hown, ← prefix_append_iff h, ← hown] at hbegins
    rw [relativeKey, hkey, if_neg (mt List.isPrefixOf_iff_prefix.mp hbegins)]

/-- **Both spellings of a name have one variable**, which ends in the capitals of the name. -/
theorem exists_variableName (key : String) :
    ∃ start, ∀ name, IsIdentifier name →
      variableName (key ++ "." ++ name) = start ++ upperCase name ∧
      variableName (key ++ "." ++ hyphenated name) = start ++ upperCase name := by
  obtain ⟨start, hstart⟩ := exists_relativeKey key
  let flat (c : Char) : Char := if c == '.' || c == '-' then '_' else c
  have named : ∀ {name : String} (chars : List Char), chars.map flat = name.toList → ∀ spelling : String,
      relativeKey spelling = start ++ chars → variableName spelling =
        "SPECLOGIC_" ++ upperCase (String.ofList (start.map flat)) ++ upperCase name := by
    intro name chars hchars spelling hspelling
    rw [variableName, hspelling, List.map_append, String.ofList_append, Text.upperCase_append,
      ← String.append_assoc, hchars, String.ofList_toList]
  refine ⟨_, fun name h => ⟨named name.toList ?_ _ (hstart name h.dotless),
    named (hyphenated name).toList ?_ _ (hstart _ (dotless_hyphenated h.dotless))⟩⟩
  · refine (List.map_congr_left fun c hc => ?_).trans (List.map_id _)
    have hdot : c ≠ '.' := ne_of_mem_of_not_mem hc h.dotless
    have hhyphen : c ≠ '-' := ne_of_mem_of_not_mem hc h.unhyphenated
    simp [flat, hdot, hhyphen]
  · rw [hyphenated, String.toList_ofList, List.map_map]
    refine (List.map_congr_left fun c hc => ?_).trans (List.map_id _)
    have hdot : c ≠ '.' := ne_of_mem_of_not_mem hc h.dotless
    have hhyphen : c ≠ '-' := ne_of_mem_of_not_mem hc h.unhyphenated
    by_cases hc : c = '_'
    · subst hc
      rfl
    · simp [flat, hdot, hhyphen, hc]

end Environment

/-! ## What a section holds -/

namespace Value

lemma follow_concat (v : Value) (names : List String) (name : String) :
    v.follow (names ++ [name]) = (v.follow names).bind fun inner => inner.child? name := by
  induction names generalizing v with
  | nil =>
      show (v.child? name).bind some = v.child? name
      cases v.child? name <;> rfl
  | cons n names ih =>
      rw [List.cons_append, follow, follow, Option.bind_assoc]
      exact Option.bind_congr fun inner _ => ih inner

section Atoms

variable {name : String} {entries : List (Value × Value)}

lemma under?_parts_of_none (h : under? name entries = .none) : under? name (parts entries) = .none := by
  rw [under?_eq_none_iff] at h ⊢
  rwa [keys_parts]

/-- Values that are no collections are not changed by taking them out. -/
lemma under?_parts_of_atom {v : Value} (h : under? name entries = some v) (atom : v.isAtom = true) :
    under? name (parts entries) = some v := by
  have hnumbered : entries.find? (fun e => e.1.eq (.str name)) =
      (entries.zipIdx.find? fun e => e.1.1.eq (.str name)).map (·.1) := by
    rw [← List.zipIdx_map_fst 0 entries, List.find?_map, List.zipIdx_map_fst]
    rfl
  rw [under?, hnumbered] at h
  obtain ⟨e, he, rfl⟩ := Option.map_eq_some_iff.mp h
  obtain ⟨⟨e, i⟩, hfound, rfl⟩ := Option.map_eq_some_iff.mp he
  rw [under?, parts, List.find?_map, Option.map_map]
  exact (congrArg (Option.map _) hfound).trans (congrArg some (unroll_atom atom))

end Atoms

end Value

namespace Config

variable {c : Config} {env : Environment} {key name : String}

/-- What the section under a key holds under a name. -/
def held? (c : Config) (key name : String) : Option Value := Value.under? name (c.entries key)

/-- What a key below a section leads to is a part of the section. -/
lemma lookup_field (h : '.' ∉ name.toList) :
    c.data.lookup (key ++ "." ++ name) = Value.under? name (Value.parts (c.entries key)) := by
  rw [Value.lookup, Text.dotted_append h, Value.follow_concat, entries, Value.lookup]
  cases c.data.follow (Text.dotted key) with
  | none => rfl
  | some v => cases v <;> rfl

lemma lookup_of_held? {w : Value} (h : '.' ∉ name.toList) (hw : c.held? key name = some w)
    (atom : w.isAtom = true) : c.data.lookup (key ++ "." ++ name) = some w := by
  rw [lookup_field h, Value.under?_parts_of_atom hw atom]

lemma lookup_of_held?_none (h : '.' ∉ name.toList) (hw : c.held? key name = .none) :
    c.data.lookup (key ++ "." ++ name) = .none := by
  rw [lookup_field h, Value.under?_parts_of_none hw]

/-- The spelling with hyphens is used if the section has it. -/
lemma fieldKey_eq (c : Config) (key name : String) :
    c.fieldKey key name =
      key ++ "." ++ (if (c.held? key (hyphenated name)).isSome then hyphenated name else name) := by
  have hany : ((c.entries key).any fun e => e.1.eq (.str (hyphenated name))) =
      (c.held? key (hyphenated name)).isSome := by
    rw [held?, Value.under?, Option.isSome_map, List.isSome_find?]
  rw [fieldKey, hany]
  split_ifs <;> rfl

end Config

/-! ## What is written -/

/-- A value, or a text that is read as it: the word for a truth value in any letter case, or the numeral
of an integer that has not too many digits.  Texts are themselves. -/
inductive Spelled : FieldKind → Value → Value → Prop where
  | truth (b : Bool) : Spelled .truth (.bool b) (.bool b)
  | whole (n : Int) : Spelled .whole (.int n) (.int n)
  | text (s : String) : Spelled .other (.str s) (.str s)
  | truthWord {b : Bool} {word : String} : word.toList.map Char.toLower = (toString b).toList →
      Spelled .truth (.bool b) (.str word)
  | numeral {n : Int} : (Value.int n).isWritable = true →
      Spelled .whole (.int n) (.str (Value.int n).text)

namespace Spelled

variable {kind : FieldKind} {v w : Value}

lemma read (h : Spelled kind v w) : kind.read w = .ok v := by
  cases h with
  | truth | whole | text => rfl
  | truthWord hword => exact Text.readTruth_spelled hword
  | numeral hn => exact (Text.readInteger_text _).trans (if_pos hn)

lemma isAtom (h : Spelled kind v w) : w.isAtom = true := by
  cases h <;> rfl

lemma isNone (h : Spelled kind v w) : w.isNone = false := by
  cases h <;> rfl

lemma eq_self (h : Spelled kind v w) : v.eq v = true := by
  cases h with
  | truth b | @truthWord b =>
      cases b <;> rfl
  | whole n | numeral => exact Number.eq_int_self _
  | text s => exact beq_self_eq_true s

/-- Only a text itself may have placeholders. -/
lemma mayHold (h : Spelled kind v w) {s : String} (hw : w = .str s)
    (plain : ∀ t, v = .str t → Placeholder.mayHold t = false) : Placeholder.mayHold s = false := by
  cases h with
  | truth | whole => cases hw
  | text t => exact plain s hw
  | truthWord hword =>
      cases hw
      exact Text.mayHold_word hword
  | numeral =>
      cases hw
      exact Text.mayHold_text _

end Spelled

/-- Where the value of a field is written. -/
inductive Place where
  /-- In the section, under the name with hyphens. -/
  | hyphens
  /-- In the section, under the name itself. -/
  | underscores
  /-- In the field's variable. -/
  | variable
  /-- Nowhere, since it is the default. -/
  | nowhere
  deriving DecidableEq

namespace Config

/-- The section holds the value of the field under a name.  Texts in it have no placeholders. -/
def HoldsField (c : Config) (key name : String) (f : Field) (v : Value) : Prop :=
  ∃ w, c.held? key name = some w ∧ Spelled f.kind v w ∧ ∀ t, v = .str t → Placeholder.mayHold t = false

/-- The value of the field is written in the place. -/
def Writes (c : Config) (env : Environment) (key : String) (f : Field) (v : Value) : Place → Prop
  | .hyphens => c.HoldsField key (hyphenated f.name) f v
  | .underscores => (hyphenated f.name ≠ f.name → c.held? key (hyphenated f.name) = .none) ∧
      c.HoldsField key f.name f v
  | .variable => ∃ text, env.override? (key ++ "." ++ f.name) = .ok (some text) ∧
      Spelled f.kind v (.str text)
  | .nowhere => c.held? key (hyphenated f.name) = .none ∧ c.held? key f.name = .none ∧
      ∃ d, f.default = some d ∧ d.eq v = true

/-! ## What is read -/

section Reading

variable {c : Config} {env : Environment} {key : String} {f : Field} {v w : Value}

lemma get_of_lookup_none {k : String} (free : env.override? k = .ok none)
    (unset : c.data.lookup k = .none) (default : Value) : c.get env k default = .ok default := by
  rw [get, free]
  simp only [unset]
  rfl

lemma get_of_override {k text : String} (h : env.override? k = .ok (some text)) (default : Value) :
    c.get env k default = .ok (.str text) := by
  rw [get, h]

/-- Whichever spelling is used, the variable is the same. -/
lemma override?_fieldKey (c : Config) (env : Environment) (key : String) {name : String}
    (h : IsIdentifier name) :
    env.override? (c.fieldKey key name) = env.override? (key ++ "." ++ name) := by
  obtain ⟨start, hstart⟩ := Environment.exists_variableName key
  rw [fieldKey_eq, Environment.override?, Environment.override?]
  split_ifs
  · rw [(hstart name h).1, (hstart name h).2]
  · rfl

/-- What is read for a field is a spelling of its value, or nothing if the value is the default. -/
structure Reads (c : Config) (env : Environment) (key : String) (f : Field) (v : Value)
    (raw : Option Value) : Prop where
  get : c.get env (c.fieldKey key f.name) .none = .ok (raw.getD .none)
  spelled : ∀ w, raw = some w → Spelled f.kind v w
  default : raw = none → ∃ d, f.default = some d ∧ d.eq v = true

namespace Reads

lemma of_spelled (hget : c.get env (c.fieldKey key f.name) .none = .ok w) (h : Spelled f.kind v w) :
    Reads c env key f v (some w) := by
  refine ⟨hget, ?_, nofun⟩
  rintro _ ⟨rfl⟩
  exact h

/-- What the section holds under the spelling in use is read, if the variable is not set. -/
lemma exists_of_holdsField {spelling : String} (hname : IsIdentifier f.name)
    (unset : env.override? (key ++ "." ++ f.name) = .ok none) (dotless : '.' ∉ spelling.toList)
    (hkey : c.fieldKey key f.name = key ++ "." ++ spelling) (h : c.HoldsField key spelling f v) :
    ∃ raw, Reads c env key f v raw := by
  obtain ⟨w, hheld, hspelled, plain⟩ := h
  rw [← override?_fieldKey c env key hname] at unset
  have hlookup := lookup_of_held? dotless hheld hspelled.isAtom
  rw [← hkey] at hlookup
  have present : w ≠ .none := by
    rintro rfl
    cases hspelled.isNone
  have expanded : ∀ s, w = .str s → Placeholder.bodies s = [] := fun s hs =>
    Placeholder.bodies_eq_nil (hspelled.mayHold hs plain)
  exact ⟨some w, .of_spelled (get_of_bodies_eq_nil unset hlookup present expanded _) hspelled⟩

end Reads

/-- **A field that is written is read**, wherever it is written. -/
theorem exists_reads {place : Place} (hname : IsIdentifier f.name)
    (written : c.Writes env key f v place)
    (unset : place ≠ .variable → env.override? (key ++ "." ++ f.name) = .ok none) :
    ∃ raw, Reads c env key f v raw := by
  cases place with
  | hyphens =>
      refine Reads.exists_of_holdsField hname (unset nofun) (dotless_hyphenated hname.dotless) ?_ written
      obtain ⟨w, hheld, -⟩ := written
      rw [fieldKey_eq, hheld]
      rfl
  | underscores =>
      obtain ⟨hhyphens, hholds⟩ := written
      refine Reads.exists_of_holdsField hname (unset nofun) hname.dotless ?_ hholds
      rw [fieldKey_eq]
      split_ifs with hused
      · by_cases hsame : hyphenated f.name = f.name
        · rw [hsame]
        · rw [hhyphens hsame] at hused
          cases hused
      · rfl
  | «variable» =>
      obtain ⟨text, hoverride, hspelled⟩ := written
      rw [← override?_fieldKey c env key hname] at hoverride
      exact ⟨_, .of_spelled (get_of_override hoverride _) hspelled⟩
  | nowhere =>
      obtain ⟨hhyphens, hheld, hdefault⟩ := written
      have hkey : c.fieldKey key f.name = key ++ "." ++ f.name := by
        rw [fieldKey_eq, hhyphens]
        rfl
      have hfree := unset nofun
      rw [← hkey] at hfree
      have hlookup := lookup_of_held?_none hname.dotless hheld
      rw [← hkey] at hlookup
      exact ⟨none, get_of_lookup_none hfree hlookup _, nofun, fun _ => hdefault⟩

end Reading

/-! ## Fields, one by one -/

section Fields

variable {fields : List Field}

/-- Values under the names of their fields. -/
def named (fields : List Field) (values : Field → Option Value) : List (String × Value) :=
  fields.filterMap fun f => (values f).map (f.name, ·)

lemma named_cons (f : Field) (fields : List Field) (values : Field → Option Value) :
    named (f :: fields) values =
      ((values f).map (f.name, ·)).toList ++ named fields values := by
  rw [named, List.filterMap_cons]
  cases values f <;> rfl

lemma name_mem_of_mem_named {values : Field → Option Value} {p : String × Value}
    (h : p ∈ named fields values) : p.1 ∈ fields.map (·.name) := by
  obtain ⟨f, hf, hp⟩ := List.mem_filterMap.mp h
  obtain ⟨v, _, rfl⟩ := Option.map_eq_some_iff.mp hp
  exact List.mem_map_of_mem hf

variable (distinct : (fields.map (·.name)).Nodup) {f : Field} (hf : f ∈ fields)
include distinct hf

lemma find?_field : fields.find? (·.name == f.name) = some f := by
  cases hfound : fields.find? (·.name == f.name) with
  | none => exact absurd (beq_self_eq_true f.name) (List.find?_eq_none.mp hfound f hf)
  | some g =>
      have hname : g.name = f.name := beq_iff_eq.mp (List.find?_some hfound :)
      rw [List.inj_on_of_nodup_map distinct (List.mem_of_find?_eq_some hfound) hf hname]

/-- Fields with names of their own find their values. -/
lemma find?_named (values : Field → Option Value) :
    ((named fields values).find? (·.1 == f.name)).map (·.2) = values f := by
  induction fields with
  | nil => cases hf
  | cons g fields ih =>
      rw [List.map_cons, List.nodup_cons] at distinct
      rw [named_cons, List.find?_append]
      rcases List.mem_cons.mp hf with rfl | htail
      · cases hv : values f with
        | some v => simp
        | none =>
            have hlater : (named fields values).find? (·.1 == f.name) = .none := by
              refine List.find?_eq_none.mpr fun p hp heq => distinct.1 ?_
              rw [← beq_iff_eq.mp heq]
              exact name_mem_of_mem_named hp
            simp [hlater]
      · have hne : ¬ g.name = f.name := fun heq =>
          distinct.1 (heq ▸ List.mem_map_of_mem htail)
        have hfirst : ((values g).map (g.name, ·)).toList.find? (·.1 == f.name) = .none := by
          cases values g <;> simp [hne]
        rw [hfirst, Option.none_or]
        exact ih distinct.2 htail

end Fields

/-- What is set is collected under the names of the fields. -/
lemma fieldValues_eq {c : Config} {env : Environment} {key : String} {fields : List Field}
    {raw : Field → Option Value}
    (get : ∀ f ∈ fields, c.get env (c.fieldKey key f.name) .none = .ok ((raw f).getD .none))
    (present : ∀ f ∈ fields, ∀ w, raw f = some w → w.isNone = false) :
    c.fieldValues env key (fields.map (·.name)) = .ok (named fields raw) := by
  induction fields with
  | nil => rfl
  | cons f fields ih =>
      rw [List.forall_mem_cons] at get present
      rw [List.map_cons, fieldValues, get.1, ih get.2 present.2, named_cons]
      cases hraw : raw f with
      | none => rfl
      | some w =>
          show Except.ok (if w.isNone then _ else _) = _
          rw [present.1 w hraw]
          rfl

end Config

namespace PropertiesClass

open Config (named)

variable {cls : PropertiesClass} (distinct : (cls.fields.map (·.name)).Nodup)
include distinct

/-- What is set is read as the kind of its field. -/
lemma readAll_named {fields : List Field} {raw : Field → Option Value} {x : Field → Value}
    (sub : ∀ f ∈ fields, f ∈ cls.fields)
    (read : ∀ f ∈ fields, ∀ w, raw f = some w → f.kind.read w = .ok (x f)) :
    cls.readAll (named fields raw) = .ok (named fields fun f => (raw f).map fun _ => x f) := by
  induction fields with
  | nil => rfl
  | cons f fields ih =>
      rw [List.forall_mem_cons] at sub read
      rw [Config.named_cons, Config.named_cons]
      cases hraw : raw f with
      | none => exact ih sub.2 read.2
      | some w =>
          show cls.readAll ((f.name, w) :: named fields raw) = _
          rw [readAll, Config.find?_field distinct sub.1, ih sub.2 read.2]
          show ((f.kind.read w).bind fun v => _) = _
          rw [read.1 w hraw]
          rfl

/-- Fields that are not given have their defaults. -/
lemma fill_named {values : Field → Option Value}
    (given : ∀ f ∈ cls.fields, ((values f).or f.default).isSome = true) :
    cls.fill (named cls.fields values) =
      .ok (cls.fields.map fun f => (f.name, ((values f).or f.default).getD .none)) := by
  have hgiven : ∀ f ∈ cls.fields, (((named cls.fields values).find? (·.1 == f.name)).map (·.2)).or
      f.default = (values f).or f.default := fun f hf => by
    rw [Config.find?_named distinct hf]
  have hmissing : (cls.fields.filter fun f => ((((named cls.fields values).find?
      (·.1 == f.name)).map (·.2)).or f.default).isNone) = [] := by
    refine List.filter_eq_nil_iff.mpr fun f hf => ?_
    rw [hgiven f hf, Option.isNone_iff_eq_none, ← Option.not_isSome_iff_eq_none, not_not]
    exact given f hf
  simp only [fill]
  rw [hmissing]
  exact congrArg Except.ok (List.map_congr_left fun f hf => by rw [hgiven f hf])

end PropertiesClass

namespace Config

/-- No variable of the fields is set but those that fields are written in. -/
def Unset (env : Environment) (key : String) (fields : List Field) (place : Field → Place) : Prop :=
  ∀ f ∈ fields, (∀ g ∈ fields, place g = .variable →
    Environment.variableName (key ++ "." ++ g.name) ≠ Environment.variableName (key ++ "." ++ f.name)) →
    env.override? (key ++ "." ++ f.name) = .ok none

/-- The variables of other fields are other variables. -/
lemma Unset.override? {env : Environment} {key : String} {fields : List Field} {place : Field → Place}
    (unset : Unset env key fields place) (names : ∀ f ∈ fields, IsIdentifier f.name)
    (distinct : (fields.map fun f => upperCase f.name).Nodup) {f : Field} (hf : f ∈ fields)
    (hplace : place f ≠ .variable) : env.override? (key ++ "." ++ f.name) = .ok none := by
  refine unset f hf fun g hg hvariable hsame => hplace ?_
  obtain ⟨start, hstart⟩ := Environment.exists_variableName key
  rw [(hstart _ (names g hg)).1, (hstart _ (names f hf)).1, String.append_right_inj] at hsame
  rwa [List.inj_on_of_nodup_map distinct hg hf hsame] at hvariable

/-- Once the values are collected, they are read, and what is left out is filled in. -/
lemma bind_eq {c : Config} {env : Environment} {cls : PropertiesClass} {key : String}
    (hkey : cls.key = some key) {values : List (String × Value)}
    (collected : c.fieldValues env key (cls.fields.map (·.name)) = .ok values) :
    c.bind env cls = (cls.readAll values).bind cls.fill := by
  rw [bind, hkey]
  show (c.fieldValues env key (cls.fields.map (·.name))).bind _ = _
  rw [collected]
  rfl

/-- **Binding gives back what was written**, wherever and however each of the values is written, if the
names of the fields differ in more than letter case. -/
theorem bind_written {c : Config} {env : Environment} {cls : PropertiesClass} {key : String}
    {x : Field → Value} {place : Field → Place} (hkey : cls.key = some key)
    (names : ∀ f ∈ cls.fields, IsIdentifier f.name)
    (distinct : (cls.fields.map fun f => upperCase f.name).Nodup)
    (written : ∀ f ∈ cls.fields, c.Writes env key f (x f) (place f))
    (unset : Unset env key cls.fields place) :
    ∃ values, c.bind env cls = .ok values ∧
      List.Forall₂ (fun f p => p.1 = f.name ∧ p.2.eq (x f) = true) cls.fields values := by
  choose! raw reads using fun f hf =>
    exists_reads (names f hf) (written f hf) (unset.override? names distinct hf)
  have distinctNames : (cls.fields.map (·.name)).Nodup := by
    rw [← Function.comp_def upperCase, ← List.map_map] at distinct
    exact distinct.of_map
  have given : ∀ f ∈ cls.fields, ∃ v, ((raw f).map fun _ => x f).or f.default = some v ∧
      v.eq (x f) = true := by
    intro f hf
    cases hraw : raw f with
    | none => exact (reads f hf).default hraw
    | some w => exact ⟨x f, rfl, ((reads f hf).spelled w hraw).eq_self⟩
  have collected := fieldValues_eq (fun f hf => (reads f hf).get) fun f hf w hw =>
    ((reads f hf).spelled w hw).isNone
  have read := cls.readAll_named distinctNames (fun f hf => hf) fun f hf w hw =>
    ((reads f hf).spelled w hw).read
  have filled := cls.fill_named distinctNames fun f hf => by
    obtain ⟨v, hv, _⟩ := given f hf
    rw [hv]
    rfl
  refine ⟨cls.fields.map fun f => (f.name, (((raw f).map fun _ => x f).or f.default).getD .none),
    ?_, ?_⟩
  · rw [bind_eq hkey collected, read]
    exact filled
  · rw [List.forall₂_map_right_iff, List.forall₂_same]
    intro f hf
    obtain ⟨v, hv, heq⟩ := given f hf
    rw [hv]
    exact ⟨rfl, heq⟩

/-- The properties of a search. -/
def searchClass : PropertiesClass where
  name := "SearchProperties"
  key := some "app.search"
  fields := [⟨"max_terms", .whole, some (.int 10)⟩, ⟨"fuzzy", .truth, some (.bool false)⟩,
    ⟨"label", .other, some (.str "search")⟩]

/-- Settings for a search, one of them with hyphens. -/
def searchSettings : Config :=
  ⟨.map [(.str "app", .map [(.str "search", .map [(.str "max-terms", .str "25"),
    (.str "fuzzy", .str "maybe")])])], []⟩

/-- The variables of the fields. -/
lemma variableName_search :
    Environment.variableName "app.search.max_terms" = "SPECLOGIC_APP_SEARCH_MAX_TERMS" ∧
    Environment.variableName "app.search.fuzzy" = "SPECLOGIC_APP_SEARCH_FUZZY" ∧
    Environment.variableName "app.search.label" = "SPECLOGIC_APP_SEARCH_LABEL" := by
  decide +kernel

/-- A numeral in the section, a truth value in a variable, and a default. -/
theorem bind_written_search : ∃ terms fuzzy label,
    searchSettings.bind ⟨[("SPECLOGIC_APP_SEARCH_FUZZY", "TRUE")]⟩ searchClass =
      .ok [("max_terms", terms), ("fuzzy", fuzzy), ("label", label)] ∧
    terms.eq (.int 25) = true ∧ fuzzy.eq (.bool true) = true ∧ label.eq (.str "search") = true := by
  let x (f : Field) : Value :=
    if f.name = "max_terms" then .int 25 else if f.name = "fuzzy" then .bool true else .str "search"
  let place (f : Field) : Place :=
    if f.name = "max_terms" then .hyphens else if f.name = "fuzzy" then .variable else .nowhere
  obtain ⟨terms, fuzzy, label⟩ := variableName_search
  have written : ∀ f ∈ searchClass.fields, searchSettings.Writes
      ⟨[("SPECLOGIC_APP_SEARCH_FUZZY", "TRUE")]⟩ "app.search" f (x f) (place f) := by
    simp only [searchClass, List.forall_mem_cons]
    refine ⟨?_, ?_, ?_, List.forall_mem_nil _⟩
    · exact ⟨.str "25", by cbv, .numeral (n := 25) (by decide +kernel), nofun⟩
    · refine ⟨"TRUE", ?_, .truthWord rfl⟩
      show Environment.read _ (Environment.variableName "app.search.fuzzy") = _
      rw [fuzzy]
      rfl
    · exact ⟨by cbv, by cbv, _, rfl, by decide⟩
  have unset : Unset ⟨[("SPECLOGIC_APP_SEARCH_FUZZY", "TRUE")]⟩ "app.search" searchClass.fields place := by
    simp only [Unset, searchClass, List.forall_mem_cons]
    refine ⟨fun _ => ?_, fun h => ?_, fun _ => ?_, List.forall_mem_nil _⟩
    · show Environment.read _ (Environment.variableName "app.search.max_terms") = _
      rw [terms]
      rfl
    · exact absurd rfl (h.2.1 rfl)
    · show Environment.read _ (Environment.variableName "app.search.label") = _
      rw [label]
      rfl
  have names : ∀ f ∈ searchClass.fields, IsIdentifier f.name := by
    simp only [searchClass, List.forall_mem_cons]
    exact ⟨⟨by decide, by decide⟩, ⟨by decide, by decide⟩, ⟨by decide, by decide⟩, List.forall_mem_nil _⟩
  obtain ⟨values, hbind, hvalues⟩ := bind_written rfl names (by decide +kernel) written unset
  obtain ⟨⟨_, m⟩, _, ⟨rfl, hm⟩, hrest, rfl⟩ := List.forall₂_cons_left_iff.mp hvalues
  obtain ⟨⟨_, f⟩, _, ⟨rfl, hf⟩, hrest', rfl⟩ := List.forall₂_cons_left_iff.mp hrest
  obtain ⟨⟨_, l⟩, _, ⟨rfl, hl⟩, hnil, rfl⟩ := List.forall₂_cons_left_iff.mp hrest'
  obtain rfl := List.forall₂_nil_left_iff.mp hnil
  exact ⟨m, f, l, hbind, hm, hf, hl⟩

/-- A number in a variable is not read if its numeral is too long by one digit. -/
theorem bind_longNumeral :
    Config.bind ⟨.map [], []⟩
        ⟨[("SPECLOGIC_APP_SEARCH_MAX_TERMS", (Value.int (10 ^ 4300)).text)]⟩ searchClass =
      .error (.tooManyDigits 4301) := by
  have hbind : ∀ text : String, Config.bind ⟨.map [], []⟩
      ⟨[("SPECLOGIC_APP_SEARCH_MAX_TERMS", text)]⟩ searchClass =
        (FieldKind.read .whole (.str text)).map fun v =>
          [("max_terms", v), ("fuzzy", .bool false), ("label", .str "search")] := by
    intro text
    let raw (f : Field) : Option Value := if f.name = "max_terms" then some (.str text) else none
    have get : ∀ f ∈ searchClass.fields, Config.get ⟨.map [], []⟩
        ⟨[("SPECLOGIC_APP_SEARCH_MAX_TERMS", text)]⟩
        (Config.fieldKey ⟨.map [], []⟩ "app.search" f.name) .none = .ok ((raw f).getD .none) := by
      obtain ⟨terms, fuzzy, label⟩ := variableName_search
      simp only [searchClass, List.forall_mem_cons]
      refine ⟨get_of_override ?_ _, get_of_lookup_none ?_ rfl _, get_of_lookup_none ?_ rfl _,
        List.forall_mem_nil _⟩
      · show Environment.read _ (Environment.variableName "app.search.max_terms") = _
        rw [terms]
        rfl
      · show Environment.read _ (Environment.variableName "app.search.fuzzy") = _
        rw [fuzzy]
        rfl
      · show Environment.read _ (Environment.variableName "app.search.label") = _
        rw [label]
        rfl
    have present : ∀ f ∈ searchClass.fields, ∀ w, raw f = some w → w.isNone = false := by
      intro f _ w hw
      obtain ⟨-, ⟨⟩⟩ := Option.ite_none_right_eq_some.mp hw
      rfl
    have hread : searchClass.readAll (named searchClass.fields raw) =
        (FieldKind.read .whole (.str text)).map fun v => [("max_terms", v)] := by
      show (FieldKind.read .whole (.str text)).bind (fun v => .ok [("max_terms", v)]) = _
      cases FieldKind.read .whole (.str text) with
      | ok => rfl
      | error => rfl
    rw [bind_eq rfl (fieldValues_eq get present), hread]
    cases FieldKind.read .whole (.str text) with
    | ok => rfl
    | error => rfl
  have hlong : (Value.int (10 ^ 4300)).isWritable = false := by decide +kernel
  have hlength : (Nat.toDigits 10 (Int.natAbs (10 ^ 4300))).length = 4301 := by
    refine le_antisymm ((Nat.length_toDigits_le_iff (by decide) (by decide)).mpr (by decide +kernel)) ?_
    refine Nat.lt_of_not_le fun hshort => ?_
    rw [Text.isWritable_int_iff.mpr hshort] at hlong
    cases hlong
  rw [hbind, Text.readInteger_text, hlong, hlength]
  rfl

end Config

end Criteria
