import Criteria.Proofs.Config.Expansion
import Mathlib

/-!
# Settings that stand for others

The text of a setting may be nothing but a placeholder for another setting.  One would expect it to give
the same text as that setting itself.  Looking up a key and replacing a placeholder are two ways to a
setting, though: a key is overridden by its own variable, and a placeholder only by a variable with the
very name that it holds; and a placeholder looks for further placeholders in whatever the setting is
written as, a key only in texts.

* `reference` — the text that is a placeholder for a key.  `pieces_reference` says that it is nothing
  else, unless the key is empty.
* `exists_of_expanded_reference` — what it is replaced by: the expanded text of the stored value.
* `expanded_of_get` — what the key itself gives for a text if no variable overrides it.
* **`get_alias`** — when both give the same text.
-/

namespace Criteria

namespace Placeholder

/-! ## A single placeholder -/

/-- The text that is a placeholder for a key. -/
def reference (key : String) : String := String.ofList (Piece.slot key.toList).chars

section Reference

variable {env : Environment} {data : Value} {key result : String}

lemma mayHold_reference (key : String) : mayHold (reference key) = true := by
  rw [mayHold, reference, String.toList_ofList]
  exact @occursIn_append ['$', '\x7b'] [] (key.toList ++ ['\x7d'])

/-- The body of a placeholder ends at its first closing brace. -/
lemma body?_append {c : Char} {body : List Char} (h : '\x7d' ∉ c :: body) :
    body? (c :: body ++ ['\x7d']) = some (c :: body, []) := by
  have inside : ∀ d ∈ c :: body, (d != '\x7d') = true := fun d hd =>
    bne_iff_ne.mpr (ne_of_mem_of_not_mem hd h)
  rw [body?, List.takeWhile_append_of_pos inside, List.dropWhile_append_of_pos inside]
  simp

lemma pieces_reference (nonempty : key ≠ "") (h : '\x7d' ∉ key.toList) :
    pieces (reference key).toList = [.slot key.toList] := by
  rw [reference, String.toList_ofList, Piece.chars]
  cases hkey : key.toList with
  | nil => exact absurd (String.toList_eq_nil_iff.mp hkey) nonempty
  | cons c body =>
      rw [hkey] at h
      rw [pieces]
      split
      next body' rest hbody =>
        rw [body?_append h] at hbody
        cases hbody
        rw [pieces]
      next hbody =>
        rw [body?_append h] at hbody
        cases hbody

/-- Without a name between the braces there is no placeholder. -/
lemma bodies_reference_empty : bodies (reference "") = [] := by
  decide +kernel

lemma parts_of_not_mem {body : List Char} (h : ':' ∉ body) : parts body = (String.ofList body, none) := by
  have inside : ∀ d ∈ body, (d != ':') = true := fun d hd =>
    bne_iff_ne.mpr (ne_of_mem_of_not_mem hd h)
  simp only [parts, List.takeWhile_eq_self_iff.mpr inside, List.dropWhile_eq_nil_iff.mpr inside]

/-- **What a placeholder for a key is replaced by**: the expanded text of the value that is stored under
the key, if no variable has the key for its name. -/
theorem exists_of_expanded_reference (nonempty : key ≠ "") (brace : '\x7d' ∉ key.toList)
    (colon : ':' ∉ key.toList) (unnamed : env.get? key = none)
    (h : Expanded env data (reference key) result) :
    ∃ v, setting? data key = some v ∧ Expanded env data v.text result := by
  rw [Expanded, pieces_reference nonempty brace] at h
  have hparts : parts key.toList = (key, none) := by
    rw [parts_of_not_mem colon, String.ofList_toList]
  cases h with
  | verbatim hverbatim hrest =>
      cases hrest
      rw [String.append_empty]
      cases hverbatim with
      | «variable» hread =>
          rw [hparts, Environment.read, unnamed] at hread
          split_ifs at hread
          cases hread
      | setting hnames _ hplain =>
          have hset := hnames.2
          rw [hparts] at hset
          exact ⟨_, hset, expanded_of_expandTo (expandTo_of_bodies_eq_nil (bodies_eq_nil hplain) 0)⟩
      | fallback _ _ hfallback =>
          rw [hparts] at hfallback
          cases hfallback
  | refers hrefers hinner hrest =>
      cases hrest
      rw [String.append_empty]
      obtain ⟨v, hnames, -, rfl, -⟩ := hrefers
      have hset := hnames.2
      rw [hparts] at hset
      exact ⟨v, hset, hinner⟩

end Reference

end Placeholder

namespace Config

open Placeholder

variable {c : Config} {env : Environment} {name key text : String} {v w : Value}

lemma exists_of_get_of_mayHold (free : env.override? name = .ok none)
    (set : c.data.lookup name = some (.str text)) (holds : mayHold text = true)
    (h : c.get env name .none = .ok w) : ∃ result, w = .str result ∧ Expanded env c.data text result := by
  rw [get_of_mayHold free set holds] at h
  cases hexpand : expandTo env c.data 11 text with
  | error f =>
      rw [hexpand] at h
      cases h
  | ok result =>
      rw [hexpand] at h
      cases h
      exact ⟨result, rfl, expanded_of_expandTo hexpand⟩

/-- What a text gives if no variable overrides it. -/
lemma expanded_of_get (free : env.override? key = .ok none)
    (set : c.data.lookup key = some (.str text)) (h : c.get env key .none = .ok v) :
    Expanded env c.data text v.text := by
  cases hmay : mayHold text with
  | true =>
      obtain ⟨result, rfl, hresult⟩ := exists_of_get_of_mayHold free set hmay h
      exact hresult
  | false =>
      have hnil := bodies_eq_nil hmay
      rw [get_of_bodies_eq_nil free set nofun (fun t ht => by cases ht; exact hnil)] at h
      cases h
      exact expanded_of_expandTo (expandTo_of_bodies_eq_nil hnil 0)

/-- **A setting that stands for another.**  Let the text of a setting be a placeholder for a key that is
not the name of a variable, let both have a value, and let no variable override the first.

An empty key makes no placeholder.  Otherwise the setting gives the expanded text of what is stored
under the key, so it gives the text of the value of the key exactly if that is the same.  It is if no
variable overrides the key and what is stored there is a text, or is written without placeholders. -/
theorem get_alias (set : c.data.lookup name = some (.str (reference key)))
    (free : env.override? name = .ok none) (colon : ':' ∉ key.toList) (brace : '\x7d' ∉ key.toList)
    (unnamed : env.get? key = none) (value : c.get env key .none = .ok v)
    (succeeds : c.get env name .none = .ok w) :
    (key = "" → w = .str (reference "")) ∧
    (key ≠ "" → ∃ stored, setting? c.data key = some stored ∧
      (w = .str v.text ↔ Expanded env c.data stored.text v.text) ∧
      (env.override? key = .ok none → (bodies stored.text = [] ∨ ∃ t, stored = .str t) →
        w = .str v.text)) := by
  constructor
  · rintro rfl
    rw [get_of_bodies_eq_nil free set nofun
      fun t ht => by cases ht; exact bodies_reference_empty] at succeeds
    exact (Except.ok.inj succeeds).symm
  · intro nonempty
    obtain ⟨result, rfl, hresult⟩ := exists_of_get_of_mayHold free set (mayHold_reference key) succeeds
    obtain ⟨stored, hset, hstored⟩ := exists_of_expanded_reference nonempty brace colon unnamed hresult
    have same : Value.str result = .str v.text ↔ Expanded env c.data stored.text v.text := by
      constructor
      · rintro ⟨⟩
        exact hstored
      · intro h
        rw [fills_unique hstored h]
    refine ⟨stored, hset, same, fun unset hplain => same.mpr ?_⟩
    obtain ⟨hlookup, hpresent⟩ := Option.filter_eq_some_iff.mp hset
    rcases hplain with hnil | ⟨t, rfl⟩
    · have hne : stored ≠ .none := by
        rintro rfl
        cases hpresent
      have plain : ∀ t, stored = .str t → bodies t = [] := by
        rintro t rfl
        exact hnil
      rw [get_of_bodies_eq_nil unset hlookup hne plain] at value
      cases value
      exact expanded_of_expandTo (expandTo_of_bodies_eq_nil hnil 0)
    · exact expanded_of_get unset hlookup value

lemma variableName_title : Environment.variableName "app.title" = "SPECLOGIC_APP_TITLE" := by
  decide +kernel

/-- A name, a greeting with a placeholder for it, and a title that stands for the greeting. -/
def titles : Config :=
  ⟨.map [(.str "app", .map [(.str "name", .str "crm"), (.str "greeting", .str "Hello $\x7bapp.name\x7d"),
    (.str "title", .str "$\x7bapp.greeting\x7d")])], []⟩

/-- The title is the greeting with the name filled in, as the greeting itself is. -/
theorem get_alias_titles :
    let env : Environment := ⟨[("LANG", "C")]⟩
    titles.get env "app.greeting" .none = .ok (.str "Hello crm") ∧
      titles.get env "app.title" .none = .ok (.str "Hello crm") := by
  intro env
  have free : env.override? "app.title" = .ok none :=
    override?_eq_none _ variableName_title rfl
  have unset : env.override? "app.greeting" = .ok none :=
    override?_eq_none "SPECLOGIC_APP_GREETING" (by decide +kernel) rfl
  have greeting : titles.get env "app.greeting" .none = .ok (.str "Hello crm") := by
    rw [get, unset]
    cbv
  have title : ∃ w, titles.get env "app.title" .none = .ok w := by
    rw [get, free]
    exact ⟨.str "Hello crm", by cbv⟩
  have hreference : reference "app.greeting" = "$\x7bapp.greeting\x7d" := by cbv
  have set : titles.data.lookup "app.title" = some (.str (reference "app.greeting")) := by
    rw [hreference]
    cbv
  obtain ⟨w, hw⟩ := title
  obtain ⟨-, hsame⟩ := get_alias set free (by decide) (by decide) rfl greeting hw
  have stored : setting? titles.data "app.greeting" = some (.str "Hello $\x7bapp.name\x7d") := by
    cbv
  obtain ⟨_, hset, -, hplain⟩ := hsame (by decide)
  rw [stored] at hset
  cases hset
  rw [hplain unset (.inr ⟨_, rfl⟩)] at hw
  exact ⟨greeting, hw⟩

/-- A title that stands for the name. -/
def renamed : Config :=
  ⟨.map [(.str "app", .map [(.str "name", .str "file"), (.str "title", .str "$\x7bapp.name\x7d")])], []⟩

/-- A variable that overrides the name does not change the title. -/
theorem get_renamed :
    let env : Environment := ⟨[("SPECLOGIC_APP_NAME", "env")]⟩
    (renamed.data.lookup "app.title" = some (.str "$\x7bapp.name\x7d") ∧
      env.override? "app.title" = .ok none ∧ env.get? "app.name" = none) ∧
    renamed.get env "app.name" .none = .ok (.str "env") ∧
      renamed.get env "app.title" .none = .ok (.str "file") := by
  intro env
  have free : env.override? "app.title" = .ok none :=
    override?_eq_none _ variableName_title rfl
  have overridden : env.override? "app.name" = .ok (some "env") := by
    have hname : Environment.variableName "app.name" = "SPECLOGIC_APP_NAME" := by decide +kernel
    rw [Environment.override?, hname]
    rfl
  refine ⟨⟨by cbv, free, by cbv⟩, ?_, ?_⟩
  · rw [get, overridden]
  · rw [get, free]
    cbv

end Config

end Criteria
