import Criteria.Proofs.Config.Expansion
import Criteria.Proofs.Config.Layers
import Mathlib

/-!
# One file of many

`Config.ofFile` is given the path of a file.  One would expect its outcome to answer with what the file
sets, whatever files there are beside it.  So it does, unless the file has the name of the plain
configuration files: then the whole folder is searched, and the file counts for as much as it does
there.

* `stem_append_suffix`, `eq_of_name` — a path from its parts.
* `seek_eq_found`, `Agree.eq_some_iff` — what is found, as long as it is not a mapping.
* `exists_ofFile` — a file with any other name has a configuration, in which it is on top.
* `readable_of_addFiles` — all files that are there have to hold mappings.
* `Folder.GivesWay` — a file leaves a key to those below it, or says the same about it.
* **`ofFile_get`** — when the file is answered with.
-/

namespace Criteria

open Value

/-! ## Names of files -/

namespace Path

/-- Nothing of a name is lost. -/
lemma splitName_append (name : List Char) : (splitName name).1 ++ (splitName name).2 = name := by
  have hsplit := List.takeWhile_append_dropWhile (p := (· != '.')) (l := name.reverse)
  rw [splitName]
  split_ifs with h
  · exact List.append_nil name
  · cases hrest : name.reverse.dropWhile (· != '.') with
    | nil =>
        rw [hrest, List.append_nil] at hsplit
        simp [hsplit] at h
    | cons c rest =>
        have hdot := List.head_dropWhile_not (· != '.') (l := name.reverse) (by simp [hrest])
        simp only [hrest, List.head_cons, bne_eq_false_iff_eq] at hdot
        rw [hrest, hdot] at hsplit
        generalize name.reverse.takeWhile (· != '.') = run at hsplit ⊢
        have hname : name = rest.reverse ++ '.' :: run.reverse := by
          rw [← List.reverse_inj, ← hsplit]
          simp
        have hlength : name.length - run.reverse.length - 1 = rest.reverse.length := by
          rw [hname]
          simp only [List.length_append, List.length_cons, List.length_reverse]
          omega
        rw [hlength, hname, List.take_left]

lemma stem_append_suffix (p : Path) : p.stem ++ p.suffix = p.name := by
  rw [stem, suffix, ← String.ofList_append, splitName_append, String.ofList_toList]

lemma eq_of_name {p : Path} {name : String} (hname : p.name = name) (nonempty : name ≠ "") :
    p = p.parent.append ⟨[name]⟩ := by
  obtain ⟨parts⟩ := p
  rw [Path.name, List.getLastD_eq_getLast?] at hname
  cases hlast : parts.getLast? with
  | none =>
      rw [hlast] at hname
      exact absurd hname.symm nonempty
  | some last =>
      rw [hlast] at hname
      cases hname
      exact congrArg Path.mk (List.dropLast_append_getLast? last hlast).symm

/-- Where the plain configuration files of a folder are, from its name and its suffix. -/
lemma eq_of_stem {p : Path} {suffix : String} (hstem : p.stem = Environment.root)
    (hsuffix : p.suffix = suffix) : p = p.parent.append ⟨[Environment.root ++ suffix]⟩ := by
  refine eq_of_name ?_ ?_
  · rw [← p.stem_append_suffix, hstem, hsuffix]
  · rw [Ne, String.append_eq_empty_iff]
    exact fun h => absurd h.1 (by decide)

end Path

/-- The plain configuration files of a folder. -/
lemma ranked_nil (dir : Path) :
    ranked dir [] = [(dir.append ⟨[Environment.root ++ ".toml"]⟩, ""),
      (dir.append ⟨[Environment.root ++ ".yaml"]⟩, ""),
      ((dir.append ⟨["config"]⟩).append ⟨[Environment.root ++ ".toml"]⟩, ""),
      ((dir.append ⟨["config"]⟩).append ⟨[Environment.root ++ ".yaml"]⟩, "")] := by
  have htables : Path.ofText (Environment.root ++ ".toml") = ⟨[Environment.root ++ ".toml"]⟩ := by cbv
  have hindented : Path.ofText (Environment.root ++ ".yaml") = ⟨[Environment.root ++ ".yaml"]⟩ := by
    cbv
  simp [ranked, configStems, htables, hindented]

/-! ## What is found -/

namespace Value

variable {names : List String} {v w : Value}

lemma seek_eq_found (h : v.follow names = some w) : seek names v = .found w := by
  rw [follow_eq_over] at h
  cases hseek : seek names v with
  | found u =>
      rw [hseek] at h
      cases h
      rfl
  | blocked | undecided =>
      rw [hseek] at h
      cases h

lemma scan_cons_of_follow (h : v.follow names = some w) (vs : List Value) :
    scan names (v :: vs) = some w := by
  rw [scan, seek_eq_found h]
  rfl

/-- Only one of two mappings need be the other. -/
lemma Agree.eq_some_iff {a b : Option Value} (h : Agree a b) (single : ∀ es, v ≠ map es) :
    a = some v ↔ b = some v := by
  rcases h with rfl | ⟨es, fs, rfl, rfl⟩
  · rfl
  · constructor
    · rintro ⟨⟩
      exact absurd rfl (single es)
    · rintro ⟨⟩
      exact absurd rfl (single fs)

lemma Finding.over_eq_some_iff {f : Finding} :
    f.over (some v) = some v ↔ f = .undecided ∨ f = .found v := by
  cases f <;> simp [Finding.over]

end Value

namespace Folder

/-- Whether a file, if it is there, leaves a key to the files below it or has the same value there. -/
def GivesWay (folder : Folder) (p : Path) (key : String) (v : Value) : Prop :=
  ∀ l, folder.layer? p "" = .ok (some l) →
    seek (Text.dotted key) (.map l.entries) = .undecided ∨
      seek (Text.dotted key) (.map l.entries) = .found v

variable {folder : Folder} {p : Path} {remark : String} {l : Layer}

lemma layer?_eq_some {text : String} {entries : List (Value × Value)}
    (there : folder.file? p = some text) (mapping : readSettings p text = .ok (.map entries)) :
    folder.layer? p remark = .ok (some ⟨p.text folder.name ++ remark, entries⟩) := by
  rw [layer?, there]
  simp only [mapping]

lemma isWithin_of_layer? (h : folder.layer? p remark = .ok (some l)) :
    (Value.map l.entries).isWithin 0 = true := by
  rcases layer?_of_readable remark (readable_of_layer? h) with habsent | ⟨l', hl', hwhole⟩
  · rw [h] at habsent
    cases habsent
  · rw [h] at hl'
    cases hl'
    exact hwhole

end Folder

namespace Config

variable {folder : Folder} {places : List (Path × String)} {p : Path} {l : Layer} {c c' : Config}
  {withDefaults : Bool}

/-! ## One file -/

lemma isPlain_bottom (h : bottom withDefaults = .ok c) : c.data.isPlain = true := by
  cases withDefaults with
  | false =>
      cases h
      rfl
  | true =>
      have hdefaults : bottom true =
          .ok ⟨.map Layer.defaults.entries, [Layer.defaults.name]⟩ := rfl
      rw [hdefaults] at h
      cases h
      decide

/-- **A file with any other name than the plain ones** is laid on the library's own settings alone. -/
theorem exists_ofFile (other : p.stem ≠ Environment.root) (hl : folder.layer? p "" = .ok (some l))
    (withDefaults : Bool) :
    ∃ c, ofFile folder p withDefaults = .ok c ∧ c.Stacks (l :: bottomLayers withDefaults) := by
  obtain ⟨b, hb, hstacks⟩ := stacks_bottom withDefaults
  obtain ⟨c, hpush⟩ := exists_push (l := l) (.inl (isPlain_bottom hb))
  refine ⟨c, ?_, stacks_push hstacks (Folder.isWithin_of_layer? hl) hpush⟩
  rw [ofFile, if_neg other, hb]
  exact addFiles_present hl hpush

/-! ## All files of a folder -/

/-- Files can be laid on each other only if each that is there holds a mapping. -/
lemma readable_of_addFiles (h : addFiles folder c places = .ok c') : folder.Readable places := by
  induction places generalizing c with
  | nil => exact List.forall_mem_nil _
  | cons place places ih =>
      obtain ⟨p, remark⟩ := place
      rw [addFiles] at h
      obtain ⟨found, hfound, h⟩ := bind_eq_ok.mp h
      refine List.forall_mem_cons.mpr ⟨Folder.readable_of_layer? hfound, ?_⟩
      cases found with
      | none => exact ih h
      | some l =>
          obtain ⟨pushed, -, h⟩ := bind_eq_ok.mp h
          exact ih h

/-- **The name of the plain configuration files** stands for all files of the folder. -/
theorem stacks_ofFile (plain : p.stem = Environment.root)
    (h : ofFile folder p withDefaults = .ok c) :
    folder.Readable (candidates p.parent []) ∧
      c.Stacks (folder.layersAt (ranked p.parent []) ++ bottomLayers withDefaults) := by
  obtain ⟨b, hb, hstacks⟩ := stacks_bottom withDefaults
  rw [ofFile, if_pos plain, ofFolder, hb] at h
  have hreadable := readable_of_addFiles h
  rw [← reverse_candidates, Folder.layersAt_reverse]
  exact ⟨hreadable, stacks_addFiles hreadable hstacks h⟩

/-! ## What a file is answered with -/

section Answers

variable {key : String} {v : Value} {layers : List Layer}

/-- What the topmost layer holds is answered. -/
lemma Stacks.lookup_eq (h : c.Stacks (l :: layers)) (set : (Value.map l.entries).lookup key = some v)
    (single : ∀ es, v ≠ .map es) : c.data.lookup key = some v := by
  refine ((h.answers _ (dotted_ne_nil key)).eq_some_iff single).mpr ?_
  rw [List.map_cons]
  exact scan_cons_of_follow set _

/-- What a layer holds is answered exactly if the one on top of it gives way. -/
lemma Stacks.lookup_iff {top : Layer} (h : c.Stacks (top :: l :: layers))
    (set : (Value.map l.entries).lookup key = some v) (single : ∀ es, v ≠ .map es) :
    c.data.lookup key = some v ↔ seek (Text.dotted key) (.map top.entries) = .undecided ∨
      seek (Text.dotted key) (.map top.entries) = .found v := by
  refine ((h.answers _ (dotted_ne_nil key)).eq_some_iff single).trans ?_
  rw [List.map_cons, List.map_cons, scan, scan_cons_of_follow set, Finding.over_eq_some_iff]

/-- Tables beside the folder `config` are on top. -/
lemma lookup_of_tables (hstem : p.stem = Environment.root) (hsuffix : p.suffix = ".toml")
    (hl : folder.layer? p "" = .ok (some l)) (set : (Value.map l.entries).lookup key = some v)
    (single : ∀ es, v ≠ .map es) (h : ofFile folder p withDefaults = .ok c) :
    c.data.lookup key = some v := by
  obtain ⟨-, hstacks⟩ := stacks_ofFile hstem h
  rw [Path.eq_of_stem hstem hsuffix] at hl
  rw [ranked_nil, Folder.layersAt_present hl] at hstacks
  exact hstacks.lookup_eq set single

/-- An indented file beside the folder `config` has only tables above it. -/
lemma lookup_of_indented (hstem : p.stem = Environment.root) (hsuffix : p.suffix = ".yaml")
    (hl : folder.layer? p "" = .ok (some l)) (set : (Value.map l.entries).lookup key = some v)
    (single : ∀ es, v ≠ .map es) (h : ofFile folder p withDefaults = .ok c) :
    c.data.lookup key = some v ↔
      folder.GivesWay (p.parent.append ⟨[Environment.root ++ ".toml"]⟩) key v := by
  obtain ⟨hreadable, hstacks⟩ := stacks_ofFile hstem h
  rw [Path.eq_of_stem hstem hsuffix] at hl
  rw [ranked_nil] at hstacks
  have htables := hreadable (p.parent.append ⟨[Environment.root ++ ".toml"]⟩, "") (by
    rw [← List.mem_reverse, reverse_candidates, ranked_nil]
    exact List.mem_cons_self)
  rcases Folder.layer?_of_readable "" htables with habsent | ⟨top, htop, -⟩
  · rw [Folder.layersAt_absent habsent, Folder.layersAt_present hl] at hstacks
    refine iff_of_true (hstacks.lookup_eq set single) fun top htop => ?_
    rw [habsent] at htop
    cases htop
  · rw [Folder.layersAt_present htop, Folder.layersAt_present hl] at hstacks
    refine (hstacks.lookup_iff set single).trans ⟨fun h top' htop' => ?_, fun h => h top htop⟩
    rw [htop] at htop'
    cases htop'
    exact h

/-- The plain configuration files have two suffixes. -/
lemma suffix_of_mem_candidates {dir : Path} {place : Path × String}
    (h : place ∈ candidates dir []) : place.1.suffix = ".toml" ∨ place.1.suffix = ".yaml" := by
  have tables : ∀ dir : Path, (dir.append ⟨[Environment.root ++ ".toml"]⟩).suffix = ".toml" := by
    intro dir
    rw [Path.suffix, Path.name, Path.append, List.getLastD_concat]
    cbv
  have indented : ∀ dir : Path, (dir.append ⟨[Environment.root ++ ".yaml"]⟩).suffix = ".yaml" := by
    intro dir
    rw [Path.suffix, Path.name, Path.append, List.getLastD_concat]
    cbv
  rw [← List.mem_reverse, reverse_candidates, ranked_nil] at h
  simp only [List.mem_cons, List.not_mem_nil, or_false] at h
  rcases h with rfl | rfl | rfl | rfl
  · exact .inl (tables _)
  · exact .inr (indented _)
  · exact .inl (tables _)
  · exact .inr (indented _)

/-- **Answering with the file that was given.**  Let a file be there and hold a mapping, in which a key
has a value that is neither missing nor a mapping nor a text with placeholders, and let no variable
override the key.

If the file does not have the name of the plain configuration files, there is a configuration and it
gives this value.  If it has, every such file of the folder that is there has to hold a mapping for
there to be a configuration; there is one if none of them holds a collection that stands in itself.
Tables are then answered with, an indented file exactly if the tables beside it leave the key to it or
have the same value, and a file with another suffix only if the others, which alone are read, have the
same value. -/
theorem ofFile_get {env : Environment} {text : String} {entries : List (Value × Value)}
    (there : folder.file? p = some text) (mapping : readSettings p text = .ok (.map entries))
    (set : (Value.map entries).lookup key = some v) (present : v ≠ .none) (single : ∀ es, v ≠ .map es)
    (plain : ∀ t, v = .str t → Placeholder.bodies t = []) (free : env.override? key = .ok none)
    (withDefaults : Bool) (default : Value) :
    (p.stem ≠ Environment.root →
      ∃ c, ofFile folder p withDefaults = .ok c ∧ c.get env key default = .ok v) ∧
    (p.stem = Environment.root →
      (∀ c, ofFile folder p withDefaults = .ok c →
        folder.Readable (candidates p.parent []) ∧
        (c.data.lookup key = some v → c.get env key default = .ok v) ∧
        (p.suffix = ".toml" → c.data.lookup key = some v) ∧
        (p.suffix = ".yaml" → (c.data.lookup key = some v ↔
          folder.GivesWay (p.parent.append ⟨[Environment.root ++ ".toml"]⟩) key v)) ∧
        (p.suffix ≠ ".toml" → p.suffix ≠ ".yaml" →
          (∀ place ∈ candidates p.parent [], place.1 ≠ p) ∧
          (c.data.lookup key = some v ↔ scan (Text.dotted key)
            ((folder.layersAt (ranked p.parent []) ++ bottomLayers withDefaults).map
              fun l => .map l.entries) = some v))) ∧
      (folder.Readable (candidates p.parent []) →
        (∀ l ∈ folder.layersAt (ranked p.parent []), (Value.map l.entries).isPlain = true) →
        ∃ c, ofFile folder p withDefaults = .ok c)) := by
  have hl : folder.layer? p "" = .ok (some ⟨p.text folder.name ++ "", entries⟩) :=
    Folder.layer?_eq_some there mapping
  constructor
  · intro other
    obtain ⟨c, hc, hstacks⟩ := exists_ofFile other hl withDefaults
    exact ⟨c, hc, get_of_bodies_eq_nil free (hstacks.lookup_eq set single) present plain default⟩
  · intro hstem
    constructor
    · intro c hc
      obtain ⟨hreadable, hstacks⟩ := stacks_ofFile hstem hc
      refine ⟨hreadable, fun h => get_of_bodies_eq_nil free h present plain default,
        fun hsuffix => lookup_of_tables hstem hsuffix hl set single hc,
        fun hsuffix => lookup_of_indented hstem hsuffix hl set single hc, fun hnot hnot' => ⟨?_, ?_⟩⟩
      · rintro place hplace rfl
        rcases suffix_of_mem_candidates hplace with hsuffix | hsuffix
        · exact hnot hsuffix
        · exact hnot' hsuffix
      · exact (hstacks.answers _ (dotted_ne_nil key)).eq_some_iff single
    · intro readable hplain
      obtain ⟨b, hb, -⟩ := stacks_bottom withDefaults
      rw [← reverse_candidates, Folder.layersAt_reverse] at hplain
      rw [ofFile, if_pos hstem, ofFolder, hb]
      exact exists_addFiles readable (fun l hl => hplain l (List.mem_reverse.mpr hl)) b

end Answers

/-- A folder with both plain configuration files, one with another suffix and one with another name. -/
def siblings : Folder :=
  ⟨"<base>", [(⟨["custom.toml"]⟩, "x = 3"), (⟨["speclogic.yml"]⟩, "x: 1"),
    (⟨["speclogic.yaml"]⟩, "x: 1"), (⟨["speclogic.toml"]⟩, "x = 2")]⟩

/-- Whether a reader found a single number under a text. -/
def foundNumber (name : String) (n : Int) : Except Yaml.Error Value → Bool
  | .ok (.map [(.str s, .int m)]) => s == name && m == n
  | _ => false

lemma eq_of_foundNumber {name : String} {n : Int} {r : Except Yaml.Error Value}
    (h : foundNumber name n r = true) : r = .ok (.map [(.str name, .int n)]) := by
  unfold foundNumber at h
  split at h
  · simp only [Bool.and_eq_true, beq_iff_eq] at h
    obtain ⟨rfl, rfl⟩ := h
    rfl
  · cases h

/-- The indented files. -/
lemma read_siblings {p : Path} (hsuffix : p.suffix ≠ ".toml") :
    readSettings p "x: 1" = .ok (.map [(.str "x", .int 1)]) := by
  -- only the kernel evaluates the reader fast enough, so the outcome is decided first
  have hfound : foundNumber "x" 1 (Yaml.read "x: 1") = true := by decide +kernel
  rw [readSettings, if_neg hsuffix, eq_of_foundNumber hfound]
  rfl

/-- Whichever of the plain files is given, the tables have the last word. -/
lemma ofFile_siblings {p : Path} (hstem : p.stem = Environment.root) (hparent : p.parent = ⟨[]⟩) :
    ∃ sources, ofFile siblings p false = .ok ⟨.map [(.str "x", .int 2)], sources⟩ := by
  have hcandidates : candidates ⟨[]⟩ [] = [(⟨["config", "speclogic.yaml"]⟩, ""),
      (⟨["config", "speclogic.toml"]⟩, ""), (⟨["speclogic.yaml"]⟩, ""),
      (⟨["speclogic.toml"]⟩, "")] := by cbv
  have hnone : siblings.layer? ⟨["config", "speclogic.yaml"]⟩ "" = .ok none := by cbv
  have hnone' : siblings.layer? ⟨["config", "speclogic.toml"]⟩ "" = .ok none := by cbv
  have hindented := @Folder.layer?_eq_some siblings ⟨["speclogic.yaml"]⟩ "" _ _ (by cbv)
    (read_siblings (by decide +kernel))
  have htables : siblings.layer? ⟨["speclogic.toml"]⟩ "" =
      .ok (some ⟨"<base>/speclogic.toml", [(.str "x", .int 2)]⟩) := by cbv
  rw [ofFile, if_pos hstem, hparent, ofFolder, hcandidates]
  show ∃ sources, addFiles siblings empty _ = .ok ⟨_, sources⟩
  rw [addFiles_absent hnone, addFiles_absent hnone', addFiles_present hindented rfl,
    addFiles_present htables rfl]
  exact ⟨_, rfl⟩

lemma override?_siblings : Environment.override? ⟨[]⟩ "x" = .ok none :=
  override?_eq_none "SPECLOGIC_X" (by decide +kernel) rfl

/-- A file with a name of its own is answered with, and so are the tables. -/
theorem ofFile_get_siblings :
    (∃ c, ofFile siblings ⟨["custom.toml"]⟩ true = .ok c ∧ c.get ⟨[]⟩ "x" .none = .ok (.int 3)) ∧
      ∃ c, ofFile siblings ⟨["speclogic.toml"]⟩ false = .ok c ∧
        c.get ⟨[]⟩ "x" .none = .ok (.int 2) := by
  have present : ∀ n : Int, Value.int n ≠ .none := by
    rintro n ⟨⟩
  have single : ∀ (n : Int) es, Value.int n ≠ .map es := by
    rintro n es ⟨⟩
  have plain : ∀ (n : Int) t, Value.int n = .str t → Placeholder.bodies t = [] := by
    rintro n t ⟨⟩
  constructor
  · have there : siblings.file? ⟨["custom.toml"]⟩ = some "x = 3" := by cbv
    have mapping : readSettings ⟨["custom.toml"]⟩ "x = 3" = .ok (.map [(.str "x", .int 3)]) := by cbv
    have set : (Value.map [(.str "x", .int 3)]).lookup "x" = some (.int 3) := by cbv
    have other : Path.stem ⟨["custom.toml"]⟩ ≠ Environment.root := by decide +kernel
    exact (ofFile_get there mapping set (present 3) (single 3) (plain 3) override?_siblings true .none).1
      other
  · have there : siblings.file? ⟨["speclogic.toml"]⟩ = some "x = 2" := by cbv
    have mapping : readSettings ⟨["speclogic.toml"]⟩ "x = 2" = .ok (.map [(.str "x", .int 2)]) := by
      cbv
    have set : (Value.map [(.str "x", .int 2)]).lookup "x" = some (.int 2) := by cbv
    have hstem : Path.stem ⟨["speclogic.toml"]⟩ = Environment.root := by cbv
    obtain ⟨-, hall⟩ :=
      ofFile_get there mapping set (present 2) (single 2) (plain 2) override?_siblings false .none
    obtain ⟨sources, hc⟩ := ofFile_siblings hstem rfl
    obtain ⟨-, hget, htables, -⟩ := (hall hstem).1 _ hc
    exact ⟨_, hc, hget (htables (by cbv))⟩

lemma get_siblings {p : Path} (hstem : p.stem = Environment.root) (hparent : p.parent = ⟨[]⟩) :
    ∃ c, ofFile siblings p false = .ok c ∧ c.get ⟨[]⟩ "x" .none = .ok (.int 2) := by
  obtain ⟨sources, hc⟩ := ofFile_siblings hstem hparent
  refine ⟨_, hc, ?_⟩
  rw [get, override?_siblings]
  cbv

/-- The indented files, which set something else than the tables, are not answered with. -/
theorem ofFile_siblings_indented :
    (siblings.file? ⟨["speclogic.yml"]⟩ = some "x: 1" ∧
      siblings.file? ⟨["speclogic.yaml"]⟩ = some "x: 1" ∧
      readSettings ⟨["speclogic.yml"]⟩ "x: 1" = .ok (.map [(.str "x", .int 1)]) ∧
      readSettings ⟨["speclogic.yaml"]⟩ "x: 1" = .ok (.map [(.str "x", .int 1)]) ∧
      (Value.map [(.str "x", .int 1)]).lookup "x" = some (.int 1) ∧
      Environment.override? ⟨[]⟩ "x" = .ok none) ∧
    (∃ c, ofFile siblings ⟨["speclogic.yml"]⟩ false = .ok c ∧
      c.get ⟨[]⟩ "x" .none = .ok (.int 2)) ∧
    ∃ c, ofFile siblings ⟨["speclogic.yaml"]⟩ false = .ok c ∧
      c.get ⟨[]⟩ "x" .none = .ok (.int 2) :=
  ⟨⟨by cbv, by cbv, read_siblings (by decide +kernel), read_siblings (by decide +kernel), by cbv,
    override?_siblings⟩, get_siblings (by cbv) rfl, get_siblings (by cbv) rfl⟩

end Config

end Criteria
