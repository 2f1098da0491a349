import Criteria.Config.Source
import Criteria.Proofs.Config.Search
import Criteria.Proofs.Toml.Plain
import Criteria.Proofs.Yaml.Whole
import Mathlib

/-!
# The first file that decides

`Config.ofFolder` lays the configuration files of a folder on top of each other, from the lowest
priority to the highest.  Whoever looks up a key in the outcome might as well look into the files,
from the highest priority to the lowest, up to the first that decides.

* `ranked` — where the files may be, the highest priority first.
* `Folder.layersAt` — the layers of the files that are there.
* `Config.Stacks` — a configuration names these layers and answers like them.
* `stacks_push`, `stacks_addFiles` — one more layer, and all files in turn.
* **`ofFolder_lookup`** — the configuration of a folder.
-/

namespace Criteria

open Value

/-! ## Files -/

/-- Nothing leads out of what is read from a file. -/
lemma readSettings_whole {p : Path} {text : String} {v : Value}
    (h : readSettings p text = .ok v) : v.isWithin 0 = true := by
  rw [readSettings] at h
  split at h
  next =>
    split at h
    next hread =>
      cases h
      exact isWithin_of_isPlain (Toml.read_plain hread)
    next => cases h
    next => cases h
  next =>
    split at h
    next hread =>
      cases h
      split
      next => exact Yaml.read_whole hread
      next => rfl
    next => cases h

/-- Where configuration files may be, the highest priority first: those of a later profile before
those of an earlier one and the plain ones last; for one of these those beside the folder `config`
before those in it, and tables before indented files. -/
def ranked (dir : Path) (profiles : List Profile) : List (Path × String) :=
  (configStems profiles).reverse.flatMap fun (stem, remark) =>
    [dir, dir.append ⟨["config"]⟩].flatMap fun place =>
      [".toml", ".yaml"].map fun suffix => (place.append (.ofText (stem ++ suffix)), remark)

lemma dotted_ne_nil (key : String) : Text.dotted key ≠ [] := by
  rw [Text.dotted, Ne, List.map_eq_nil_iff]
  exact Text.splitDots_ne_nil key.toList

lemma reverse_candidates (dir : Path) (profiles : List Profile) :
    (candidates dir profiles).reverse = ranked dir profiles := by
  rw [candidates, List.reverse_flatMap, ranked]
  rfl

namespace Folder

/-- The layers of the files that are there. -/
def layersAt (folder : Folder) (places : List (Path × String)) : List Layer :=
  places.filterMap fun (p, remark) =>
    match folder.layer? p remark with
    | .ok found => found
    | .error _ => none

/-- Whether every file that is there holds a mapping. -/
def Readable (folder : Folder) (places : List (Path × String)) : Prop :=
  ∀ place ∈ places, ∀ text, folder.file? place.1 = some text →
    ∃ entries, readSettings place.1 text = .ok (.map entries)

variable {folder : Folder} {places : List (Path × String)}

lemma layersAt_absent {p : Path} {remark : String} (h : folder.layer? p remark = .ok none) :
    folder.layersAt ((p, remark) :: places) = folder.layersAt places := by
  simp [layersAt, h]

lemma layersAt_present {p : Path} {remark : String} {l : Layer}
    (h : folder.layer? p remark = .ok (some l)) :
    folder.layersAt ((p, remark) :: places) = l :: folder.layersAt places := by
  simp [layersAt, h]

lemma layersAt_reverse (places : List (Path × String)) :
    folder.layersAt places.reverse = (folder.layersAt places).reverse :=
  List.filterMap_reverse

/-- A file that gives a layer holds a mapping. -/
lemma readable_of_layer? {p : Path} {remark : String} {found : Option Layer}
    (h : folder.layer? p remark = .ok found) (text : String) (hfile : folder.file? p = some text) :
    ∃ entries, readSettings p text = .ok (.map entries) := by
  rw [layer?, hfile] at h
  split at h
  next hfile' => cases hfile'
  next hfile' =>
    cases hfile'
    split at h
    next entries hread => exact ⟨entries, hread⟩
    next => cases h
    next => cases h

/-- A file that is there and can be read gives one layer, whole and with its path for a name. -/
lemma layer?_of_readable {p : Path} (remark : String)
    (readable : ∀ text, folder.file? p = some text →
      ∃ entries, readSettings p text = .ok (.map entries)) :
    folder.layer? p remark = .ok none ∨
      ∃ l, folder.layer? p remark = .ok (some l) ∧ (Value.map l.entries).isWithin 0 = true := by
  cases hfile : folder.file? p with
  | none =>
      left
      rw [layer?, hfile]
  | some text =>
      right
      obtain ⟨entries, hentries⟩ := readable text hfile
      refine ⟨⟨p.text folder.name ++ remark, entries⟩, ?_, readSettings_whole hentries⟩
      rw [layer?, hfile]
      simp only [hentries]

end Folder

/-! ## Layers -/

namespace Config

/-- Whether a configuration names the layers, the topmost of which comes first, and answers every key
as the first of them that decides. -/
structure Stacks (c : Config) (layers : List Layer) : Prop where
  whole : c.data.isWithin 0 = true
  sources : c.sources = (layers.map (·.name)).reverse
  answers : ∀ names, names ≠ [] →
    Agree (c.data.follow names) (scan names (layers.map fun l => .map l.entries))

lemma stacks_empty : empty.Stacks [] where
  whole := rfl
  sources := rfl
  answers := by
    intro names hnames
    cases names with
    | nil => exact absurd rfl hnames
    | cons name names => exact .refl _

/-- **One more layer** answers what it decides, and leaves the rest to those below. -/
theorem stacks_push {c c' : Config} {layers : List Layer} {l : Layer} (h : c.Stacks layers)
    (hl : (Value.map l.entries).isWithin 0 = true) (hrun : c.push l = .ok c') :
    c'.Stacks (l :: layers) := by
  obtain ⟨data, hdata, hrun⟩ := bind_eq_ok.mp hrun
  cases hrun
  refine ⟨(isWithin_overlayTo h.whole hl hdata).1, ?_, fun names hnames => ?_⟩
  · rw [List.map_cons, List.reverse_cons, h.sources]
  · exact (follow_overlayTo h.whole hl hdata names).trans
      ((seek names _).over_agree (h.answers names hnames))

/-- One of a configuration and a layer may be as deep as it likes if the other is plain. -/
lemma exists_push {c : Config} {l : Layer}
    (plain : c.data.isPlain = true ∨ (Value.map l.entries).isPlain = true) :
    ∃ c', c.push l = .ok c' := by
  obtain ⟨data, hdata⟩ := exists_overlay plain
  exact ⟨_, bind_eq_ok.mpr ⟨data, hdata, rfl⟩⟩

lemma addFiles_absent {folder : Folder} {places : List (Path × String)} {c : Config} {p : Path}
    {remark : String} (h : folder.layer? p remark = .ok none) :
    addFiles folder c ((p, remark) :: places) = addFiles folder c places := by
  rw [addFiles, h]
  rfl

lemma addFiles_present {folder : Folder} {places : List (Path × String)} {c c' : Config} {p : Path}
    {remark : String} {l : Layer} (h : folder.layer? p remark = .ok (some l))
    (hpush : c.push l = .ok c') :
    addFiles folder c ((p, remark) :: places) = addFiles folder c' places := by
  rw [addFiles, h]
  show (lifted (c.push l) >>= fun c => addFiles folder c places) = _
  rw [hpush]
  rfl

lemma lifted_eq_ok {r : Except Fault Config} {c : Config} (h : lifted r = .ok c) : r = .ok c := by
  cases r <;> cases h
  rfl

/-- **All files in turn**, by induction on the places: those that are not there change nothing. -/
theorem stacks_addFiles {folder : Folder} {places : List (Path × String)}
    (readable : folder.Readable places) {c c' : Config} {layers : List Layer} (h : c.Stacks layers)
    (hrun : addFiles folder c places = .ok c') :
    c'.Stacks ((folder.layersAt places).reverse ++ layers) := by
  induction places generalizing c layers with
  | nil =>
      cases hrun
      exact h
  | cons place places ih =>
      obtain ⟨p, remark⟩ := place
      obtain ⟨hplace, hplaces⟩ := List.forall_mem_cons.mp readable
      rw [addFiles] at hrun
      rcases Folder.layer?_of_readable remark hplace with habsent | ⟨l, hl, hwhole⟩
      · rw [habsent] at hrun
        rw [Folder.layersAt_absent habsent]
        exact ih hplaces h hrun
      · rw [hl] at hrun
        obtain ⟨_, ⟨⟩, hrun⟩ := bind_eq_ok.mp hrun
        obtain ⟨pushed, hpushed, hrun⟩ := bind_eq_ok.mp hrun
        rw [Folder.layersAt_present hl, List.reverse_cons, List.append_assoc]
        exact ih hplaces (stacks_push h hwhole (lifted_eq_ok hpushed)) hrun

/-- Files whose settings hold no references can be laid on each other. -/
lemma exists_addFiles {folder : Folder} {places : List (Path × String)}
    (readable : folder.Readable places)
    (plain : ∀ l ∈ folder.layersAt places, (Value.map l.entries).isPlain = true) (c : Config) :
    ∃ c', addFiles folder c places = .ok c' := by
  induction places generalizing c with
  | nil => exact ⟨c, rfl⟩
  | cons place places ih =>
      obtain ⟨p, remark⟩ := place
      obtain ⟨hplace, hplaces⟩ := List.forall_mem_cons.mp readable
      rcases Folder.layer?_of_readable remark hplace with habsent | ⟨l, hl, -⟩
      · rw [Folder.layersAt_absent habsent] at plain
        rw [addFiles_absent habsent]
        exact ih hplaces plain c
      · rw [Folder.layersAt_present hl, List.forall_mem_cons] at plain
        obtain ⟨pushed, hpushed⟩ := exists_push (c := c) (.inr plain.1)
        rw [addFiles_present hl hpushed]
        exact ih hplaces plain.2 pushed

/-- The layers below all files. -/
def bottomLayers (withDefaults : Bool) : List Layer := if withDefaults then [.defaults] else []

/-- The library's own settings are whole, and laid on nothing. -/
lemma stacks_bottom (withDefaults : Bool) :
    ∃ c, bottom withDefaults = .ok c ∧ c.Stacks (bottomLayers withDefaults) := by
  cases withDefaults with
  | false => exact ⟨empty, rfl, stacks_empty⟩
  | true =>
      have hplain : (Value.map Layer.defaults.entries).isPlain = true := by decide
      obtain ⟨c, hpush⟩ := exists_push (c := empty) (l := .defaults) (.inr hplain)
      refine ⟨c, ?_, stacks_push stacks_empty (isWithin_of_isPlain hplain) hpush⟩
      rw [bottom, ofLayers]
      simp [hpush]

/-- **The first file that decides.**  Let every configuration file that is there hold a mapping.  The
configuration of the folder names the files that are there and the library's own settings, the
lowest priority first, and answers a key as the first of them that decides, the highest priority
first.  There is such a configuration at least if no file holds a collection that stands in
itself. -/
theorem ofFolder_lookup {folder : Folder} {dir : Path} {profiles : List Profile}
    (readable : folder.Readable (candidates dir profiles)) (withDefaults : Bool) :
    (∀ c, ofFolder folder dir profiles withDefaults = .ok c →
      c.sources = ((folder.layersAt (ranked dir profiles) ++ bottomLayers withDefaults).map
        (·.name)).reverse ∧
      ∀ key, Agree (c.data.lookup key) (scan (Text.dotted key)
        ((folder.layersAt (ranked dir profiles) ++ bottomLayers withDefaults).map
          fun l => .map l.entries))) ∧
    ((∀ l ∈ folder.layersAt (ranked dir profiles), (Value.map l.entries).isPlain = true) →
      ∃ c, ofFolder folder dir profiles withDefaults = .ok c) := by
  obtain ⟨b, hb, hstacks⟩ := stacks_bottom withDefaults
  have hlifted : lifted (bottom withDefaults) = .ok b := by
    rw [hb]
    rfl
  rw [← reverse_candidates, Folder.layersAt_reverse, ofFolder, hlifted]
  constructor
  · intro c hc
    obtain ⟨_, ⟨⟩, hrun⟩ := bind_eq_ok.mp hc
    have hc := stacks_addFiles readable hstacks hrun
    exact ⟨hc.sources, fun key => hc.answers (Text.dotted key) (dotted_ne_nil key)⟩
  · intro plain
    obtain ⟨c, hc⟩ := exists_addFiles readable (fun l hl => plain l (List.mem_reverse.mpr hl)) b
    exact ⟨c, bind_eq_ok.mpr ⟨b, rfl, hc⟩⟩

/-- A folder in which the file on top sets `x` and the one below it sets `x.y`. -/
def crossedFolder : Folder :=
  ⟨"<base>", [(⟨["speclogic.toml"]⟩, "x = 2"), (⟨["config", "speclogic.toml"]⟩, "x.y = 1")]⟩

/-- A number on top of a mapping hides what the mapping holds. -/
theorem ofFolder_lookup_crossed :
    ∃ c, ofFolder crossedFolder ⟨[]⟩ [] false = .ok c ∧ c.data.lookup "x.y" = .none ∧
      c.sources = ["<base>/config/speclogic.toml", "<base>/speclogic.toml"] := by
  have htop : crossedFolder.layer? ⟨["speclogic.toml"]⟩ "" =
      .ok (some ⟨"<base>/speclogic.toml", [(.str "x", .int 2)]⟩) := by cbv
  have hbelow : crossedFolder.layer? ⟨["config", "speclogic.toml"]⟩ "" =
      .ok (some ⟨"<base>/config/speclogic.toml", [(.str "x", .map [(.str "y", .int 1)])]⟩) := by cbv
  have hcandidates : candidates ⟨[]⟩ [] = [(⟨["config", "speclogic.yaml"]⟩, ""),
      (⟨["config", "speclogic.toml"]⟩, ""), (⟨["speclogic.yaml"]⟩, ""),
      (⟨["speclogic.toml"]⟩, "")] := by cbv
  have habsent : ∀ places : List String, places = ["config", "speclogic.yaml"] ∨
      places = ["speclogic.yaml"] → crossedFolder.layer? ⟨places⟩ "" = .ok none := by
    rintro _ (rfl | rfl) <;> cbv
  have hlayers : crossedFolder.layersAt (ranked ⟨[]⟩ []) =
      [⟨"<base>/speclogic.toml", [(.str "x", .int 2)]⟩,
        ⟨"<base>/config/speclogic.toml", [(.str "x", .map [(.str "y", .int 1)])]⟩] := by
    rw [← reverse_candidates, Folder.layersAt_reverse, hcandidates,
      Folder.layersAt_absent (habsent _ (.inl rfl)), Folder.layersAt_present hbelow,
      Folder.layersAt_absent (habsent _ (.inr rfl)), Folder.layersAt_present htop]
    rfl
  have readable : crossedFolder.Readable (candidates ⟨[]⟩ []) := by
    rw [hcandidates]
    simp only [Folder.Readable, List.forall_mem_cons]
    exact ⟨Folder.readable_of_layer? (habsent _ (.inl rfl)), Folder.readable_of_layer? hbelow,
      Folder.readable_of_layer? (habsent _ (.inr rfl)), Folder.readable_of_layer? htop,
      List.forall_mem_nil _⟩
  obtain ⟨hall, hexists⟩ := ofFolder_lookup readable false
  rw [hlayers] at hall hexists
  obtain ⟨c, hc⟩ := hexists (by decide)
  obtain ⟨hsources, hanswers⟩ := hall c hc
  have hkey : Text.dotted "x.y" = ["x", "y"] := by cbv
  have hanswer := hanswers "x.y"
  rw [hkey] at hanswer
  refine ⟨c, hc, ?_, hsources⟩
  rcases hanswer with hnone | ⟨es, fs, -, hmap⟩
  · exact hnone
  · cases hmap

end Config

end Criteria
