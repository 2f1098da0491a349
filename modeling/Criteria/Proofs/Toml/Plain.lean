import Criteria.Proofs.Config.Whole
import Criteria.Toml.Document

/-!
# The values of files in tables

A file in tables has no way to say that a collection stands in itself.

* `modifyAt_plain` — changing a table keeps its values free of references if the change does.
* `value_plain` — a value that is read is, by induction on the depth of the reader.
* **`read_plain`** — so is the table of a whole file.
-/

namespace Criteria.Toml

open Value

/-! ## Tables -/

/-- Whether the values of a table hold no references. -/
def PlainEntries (entries : Entries) : Prop := ∀ e ∈ entries, e.2.isPlain = true

lemma PlainEntries.nil : PlainEntries [] := fun _ h => nomatch h

variable {entries entries' : Entries}

lemma PlainEntries.insert (h : PlainEntries entries) (k : Value) {v : Value}
    (hv : v.isPlain = true) : PlainEntries (insertEntry entries k v) := by
  intro e he
  rw [insertEntry] at he
  split_ifs at he
  · obtain ⟨f, hf, rfl⟩ := List.mem_map.mp he
    split_ifs
    · exact hv
    · exact h f hf
  · rcases List.mem_append.mp he with he | he
    · exact h e he
    · rw [List.mem_singleton.mp he]
      exact hv

lemma PlainEntries.child (h : PlainEntries entries) {name : String} {v : Value}
    (hchild : child? entries name = some v) : v.isPlain = true := by
  obtain ⟨e, hfind, rfl⟩ := Option.map_eq_some_iff.mp hchild
  exact h e (List.mem_of_find?_eq_some hfind)

lemma modifyAt_plain {lists : Bool} {f : Entries → Option Entries}
    (hf : ∀ es es', PlainEntries es → f es = some es' → PlainEntries es') {path : List String}
    (h : PlainEntries entries) (hrun : modifyAt lists f path entries = some entries') :
    PlainEntries entries' := by
  induction path generalizing entries entries' with
  | nil => exact hf entries entries' h hrun
  | cons k ks ih =>
      have htable : ∀ {inner changed}, PlainEntries inner →
          (modifyAt lists f ks inner).map Value.map = some changed → changed.isPlain = true := by
        intro inner changed hinner hchanged
        obtain ⟨es, hes, rfl⟩ := Option.map_eq_some_iff.mp hchanged
        exact isPlain_map_iff.mpr (ih hinner hes)
      rw [modifyAt] at hrun
      split at hrun
      next =>
        obtain ⟨changed, hchanged, hrun⟩ := Option.bind_eq_some_iff.mp hrun
        cases hrun
        exact h.insert _ (htable .nil hchanged)
      next inner hchild =>
        obtain ⟨changed, hchanged, hrun⟩ := Option.bind_eq_some_iff.mp hrun
        cases hrun
        exact h.insert _ (htable (isPlain_map_iff.mp (h.child hchild)) hchanged)
      next items hchild =>
        have hitems := isPlain_list_iff.mp (h.child hchild)
        split at hrun
        next inner hlast =>
          obtain ⟨changed, hchanged, hrun⟩ := Option.bind_eq_some_iff.mp hrun
          cases hrun
          obtain ⟨es, hes, rfl⟩ := Option.map_eq_some_iff.mp hchanged
          refine h.insert _ (isPlain_list_iff.mpr fun v hv => ?_)
          rcases List.mem_append.mp hv with hv | hv
          · exact hitems v (List.dropLast_subset _ hv)
          · rw [List.mem_singleton.mp hv]
            have hinner := hitems _ (List.mem_of_getLast? hlast)
            exact isPlain_map_iff.mpr (ih (isPlain_map_iff.mp hinner) hes)
        next => cases hrun
      next => cases hrun

lemma setNew_plain {name : String} {v : Value} (hv : v.isPlain = true) (h : PlainEntries entries)
    (hrun : setNew name v entries = some entries') : PlainEntries entries' := by
  rw [setNew] at hrun
  split_ifs at hrun
  cases hrun
  exact h.insert _ hv

lemma addTable_plain {name : String} (h : PlainEntries entries)
    (hrun : addTable name entries = some entries') : PlainEntries entries' := by
  rw [addTable] at hrun
  split at hrun
  next =>
    cases hrun
    exact h.insert _ rfl
  next items hchild =>
    cases hrun
    refine h.insert _ (isPlain_list_iff.mpr fun v hv => ?_)
    rcases List.mem_append.mp hv with hv | hv
    · exact isPlain_list_iff.mp (h.child hchild) v hv
    · rw [List.mem_singleton.mp hv]
      rfl
  next => cases hrun

/-! ## Values -/

lemma of_demand {α : Type} {o : Option α} {a : α} (h : demand o = .ok a) : o = some a := by
  cases o <;> cases h
  rfl

lemma number_plain {cs rest : List Char} {v : Value} (h : number cs = .ok (v, rest)) :
    v.isPlain = true := by
  have hdecimal : ∀ {cs}, decimal cs = .ok (v, rest) → v.isPlain = true := by
    intro cs h
    rw [decimal] at h
    obtain ⟨⟨whole, tail⟩, -, h⟩ := bind_eq_ok.mp h
    dsimp only at h
    split at h
    next =>
      split_ifs at h <;> cases h <;> rfl
    next =>
      cases h
      rfl
  rw [number] at h
  split at h
  next =>
    cases h
    rfl
  next hword =>
    cases h
    rw [wordNumber?] at hword
    dsimp only at hword
    split_ifs at hword <;> cases hword <;> rfl
  next => exact hdecimal h

/-- **What is read holds no references**: values, the items of lists and the entries of tables in
braces, at every depth of the reader. -/
theorem value_plain (fuel : Nat) :
    (∀ {cs rest v}, value fuel cs = .ok (v, rest) → v.isPlain = true) ∧
    (∀ {cs rest vs}, items fuel cs = .ok (vs, rest) → ∀ v ∈ vs, v.isPlain = true) ∧
    (∀ {closed es cs rest es'}, PlainEntries es → pairs fuel closed es cs = .ok (es', rest) →
      PlainEntries es') := by
  induction fuel with
  | zero =>
      refine ⟨?_, ?_, ?_⟩
      · intro _ _ _ h
        cases h
      · intro _ _ _ h
        cases h
      · intro _ _ _ _ _ _ h
        cases h
  | succ fuel ih =>
      obtain ⟨ihValue, ihItems, ihPairs⟩ := ih
      refine ⟨?value, ?items, ?pairs⟩
      case value =>
        intro cs rest v h
        rw [value.eq_def] at h
        dsimp only at h
        split at h
        next =>
          obtain ⟨⟨t, tail⟩, -, h⟩ := bind_eq_ok.mp h
          cases h
          rfl
        next =>
          obtain ⟨⟨t, tail⟩, -, h⟩ := bind_eq_ok.mp h
          cases h
          rfl
        next =>
          cases h
          rfl
        next =>
          cases h
          rfl
        next =>
          obtain ⟨start, -, h⟩ := bind_eq_ok.mp h
          obtain ⟨⟨vs, tail⟩, hitems, h⟩ := bind_eq_ok.mp h
          cases h
          exact isPlain_list_iff.mpr (ihItems hitems)
        next =>
          split at h
          next =>
            cases h
            rfl
          next =>
            obtain ⟨⟨es, tail⟩, hpairs, h⟩ := bind_eq_ok.mp h
            cases h
            exact isPlain_map_iff.mpr (ihPairs .nil hpairs)
        next =>
          split at h
          next =>
            cases h
            rfl
          next => cases h
          next => exact number_plain h
      case items =>
        intro cs rest vs h
        rw [items.eq_def] at h
        dsimp only at h
        split at h
        next =>
          cases h
          exact fun _ hv => nomatch hv
        next =>
          obtain ⟨⟨v, tail⟩, hv, h⟩ := bind_eq_ok.mp h
          obtain ⟨start, -, h⟩ := bind_eq_ok.mp h
          split at h
          next =>
            cases h
            exact List.forall_mem_singleton.mpr (ihValue hv)
          next =>
            obtain ⟨start, -, h⟩ := bind_eq_ok.mp h
            obtain ⟨⟨more, tail⟩, hmore, h⟩ := bind_eq_ok.mp h
            cases h
            exact List.forall_mem_cons.mpr ⟨ihValue hv, ihItems hmore⟩
          next => cases h
      case pairs =>
        intro closed es cs rest es' hes h
        rw [pairs.eq_def] at h
        dsimp only at h
        obtain ⟨⟨path, rest⟩, -, h⟩ := bind_eq_ok.mp h
        dsimp only at h
        split at h
        next =>
          obtain ⟨⟨v, tail⟩, hv, h⟩ := bind_eq_ok.mp h
          dsimp only at h
          split at h
          next =>
            obtain ⟨_, hfalse, -⟩ := bind_eq_ok.mp h
            cases hfalse
          next =>
            obtain ⟨filled, hfilled, h⟩ := bind_eq_ok.mp h
            have hplain : PlainEntries filled :=
              modifyAt_plain (fun _ _ => setNew_plain (ihValue hv)) hes (of_demand hfilled)
            split at h
            next =>
              cases h
              exact hplain
            next => exact ihPairs hplain h
            next => cases h
        next => cases h

/-! ## Files -/

namespace File

variable {file file' : File}

lemma set_plain {path : List String} {v : Value} (hv : v.isPlain = true)
    (h : PlainEntries file.entries) (hrun : file.set path v = some file') :
    PlainEntries file'.entries := by
  rw [set] at hrun
  dsimp only at hrun
  split at hrun
  next => cases hrun
  next =>
    split at hrun
    next => cases hrun
    next =>
      obtain ⟨filled, hfilled, hrun⟩ := Option.bind_eq_some_iff.mp hrun
      cases hrun
      exact modifyAt_plain (fun _ _ => setNew_plain hv) h hfilled

lemma openTable_plain {path : List String} (h : PlainEntries file.entries)
    (hrun : file.openTable path = some file') : PlainEntries file'.entries := by
  rw [openTable] at hrun
  split at hrun
  next => cases hrun
  next =>
    obtain ⟨opened, hopened, hrun⟩ := Option.bind_eq_some_iff.mp hrun
    cases hrun
    refine modifyAt_plain (fun es es' hes hsome => ?_) h hopened
    cases hsome
    exact hes

lemma openItem_plain {path : List String} (h : PlainEntries file.entries)
    (hrun : file.openItem path = some file') : PlainEntries file'.entries := by
  rw [openItem] at hrun
  split at hrun
  next => cases hrun
  next =>
    obtain ⟨opened, hopened, hrun⟩ := Option.bind_eq_some_iff.mp hrun
    cases hrun
    exact modifyAt_plain (fun _ _ => addTable_plain) h hopened

lemma headingLine_plain {cs rest : List Char} (h : PlainEntries file.entries)
    (hrun : file.headingLine cs = some (file', rest)) : PlainEntries file'.entries := by
  rw [headingLine.eq_def] at hrun
  dsimp only at hrun
  split at hrun
  next =>
    obtain ⟨⟨path, tail⟩, -, hrun⟩ := Option.bind_eq_some_iff.mp hrun
    dsimp only at hrun
    split at hrun
    next =>
      obtain ⟨opened, hopened, hrun⟩ := Option.bind_eq_some_iff.mp hrun
      cases hrun
      exact @openItem_plain file.settle _ _ h hopened
    next => cases hrun
  next =>
    obtain ⟨⟨path, tail⟩, -, hrun⟩ := Option.bind_eq_some_iff.mp hrun
    dsimp only at hrun
    split at hrun
    next =>
      obtain ⟨opened, hopened, hrun⟩ := Option.bind_eq_some_iff.mp hrun
      cases hrun
      exact @openTable_plain file.settle _ _ h hopened
    next => cases hrun

lemma assignment_plain {cs rest : List Char} (h : PlainEntries file.entries)
    (hrun : file.assignment cs = .ok (file', rest)) : PlainEntries file'.entries := by
  rw [assignment] at hrun
  obtain ⟨⟨path, tail⟩, -, hrun⟩ := bind_eq_ok.mp hrun
  dsimp only at hrun
  split at hrun
  next =>
    obtain ⟨⟨v, tail⟩, hv, hrun⟩ := bind_eq_ok.mp hrun
    obtain ⟨next, hnext, hrun⟩ := bind_eq_ok.mp hrun
    cases hrun
    exact set_plain ((value_plain _).1 hv) h (of_demand hnext)
  next => cases hrun

lemma statement_plain {cs rest : List Char} (h : PlainEntries file.entries)
    (hrun : file.statement cs = .ok (file', rest)) : PlainEntries file'.entries := by
  rw [statement] at hrun
  split at hrun
  next => exact headingLine_plain h (of_demand hrun)
  next =>
    split at hrun
    next =>
      cases hrun
      exact h
    next => exact assignment_plain h hrun
  next =>
    cases hrun
    exact h

lemma statements_plain {fuel : Nat} {cs : List Char} (h : PlainEntries file.entries)
    (hrun : file.statements fuel cs = .ok file') : PlainEntries file'.entries := by
  induction fuel generalizing file cs with
  | zero => cases hrun
  | succ fuel ih =>
      rw [statements] at hrun
      obtain ⟨⟨next, tail⟩, hstatement, hrun⟩ := bind_eq_ok.mp hrun
      have hnext := statement_plain h hstatement
      obtain ⟨left, -, hrun⟩ := bind_eq_ok.mp hrun
      split at hrun
      next =>
        cases hrun
        exact hnext
      next => exact ih hnext hrun
      next => cases hrun

end File

/-- **A file in tables holds no references.** -/
theorem read_plain {text : String} {v : Value} (h : read text = .ok v) : v.isPlain = true := by
  rw [read] at h
  cases hfile : File.empty.statements ((lineFeeds text.toList).length + 1)
      (lineFeeds text.toList) with
  | error e =>
      rw [hfile] at h
      cases h
  | ok file =>
      rw [hfile] at h
      cases h
      exact isPlain_map_iff.mpr (File.statements_plain .nil hfile)

end Criteria.Toml
