import Criteria.Config.Layer
import Criteria.Logging.Setup
import Mathlib

/-!
# Setting the log up again

Each call that sets the log up gives levels to the root and to the loggers that the configuration names.
Nothing takes a level away again, so what an earlier call gave is left over wherever the last call is
silent.

**What calls do.**
* `LogSettings.given` — the levels that settings give, one after the other.
* `Log.setUp`, `Log.setUpAll` — one call, and a sequence of calls.
* `lookup_setLevels`, `root_setLevels` — a logger has the level that it was given last.
* `loggers_setUpAll` — of a sequence of calls, only the levels given in them count.

**What is left over.**
* `outerNames_of_suffix` — above a logger are the same loggers, whichever logger below asks.
* `effective_eq_iff` — two states, of which one lacks some of the levels of the other.
* **`setUp_replaces_iff`** — when the last call alone decides.
-/

namespace Criteria

/-! ## Names above a name -/

namespace Text

/-- What stands before the dots of a part is the rest of what stands before the dots of the whole. -/
lemma outerChars_of_suffix {before cs x : List Char} {rest : List (List Char)}
    (h : x :: rest <:+ outerChars before cs) :
    ∃ inner, x = before ++ inner ∧ rest = outerChars before inner := by
  induction cs generalizing before rest with
  | nil => simp [outerChars] at h
  | cons c cs ih =>
      simp only [outerChars] at h
      split_ifs at h with hdot
      · obtain hnil | ⟨front, hfront, hsuffix⟩ := List.suffix_concat_iff.mp h
        · cases hnil
        · cases front with
          | nil =>
              cases hfront
              exact ⟨[], by simp, rfl⟩
          | cons y front =>
              cases hfront
              obtain ⟨inner, rfl, rfl⟩ := ih hsuffix
              refine ⟨c :: inner, by simp, ?_⟩
              simp only [outerChars]
              rw [if_pos hdot]
              rfl
      · obtain ⟨inner, rfl, rfl⟩ := ih h
        refine ⟨c :: inner, by simp, ?_⟩
        simp only [outerChars]
        rw [if_neg hdot]

/-- **Above a name are the same names**, whichever name below asks. -/
theorem outerNames_of_suffix {name x : String} {rest : List String}
    (h : x :: rest <:+ outerNames name) : rest = outerNames x := by
  obtain ⟨l, hsuffix, hl⟩ := List.suffix_map_iff.mp h
  obtain ⟨cs, css, rfl, rfl, rfl⟩ := List.map_eq_cons_iff.mp hl.symm
  obtain ⟨inner, rfl, rfl⟩ := outerChars_of_suffix hsuffix
  rw [outerNames, String.toList_ofList]

end Text

/-! ## Levels given one after the other -/

namespace Loggers

/-- The loggers after levels were given. -/
def setLevels (s : Loggers) (given : List (String × Level)) : Loggers :=
  given.foldl (fun s e => s.setLevel e.1 e.2) s

lemma setLevels_cons (s : Loggers) (e : String × Level) (given : List (String × Level)) :
    s.setLevels (e :: given) = (s.setLevel e.1 e.2).setLevels given := rfl

lemma setLevels_append (s : Loggers) (earlier later : List (String × Level)) :
    s.setLevels (earlier ++ later) = (s.setLevels earlier).setLevels later := List.foldl_append

/-- The empty name is the root's. -/
lemma setLevel_root (s : Loggers) (l : Level) : s.setLevel "" l = { s with root := l } := by
  have hroot : isRoot "" = true := rfl
  rw [setLevel, if_pos hroot]

/-- The level that a logger below the root was given last. -/
def lastGiven (given : List (String × Level)) (name : String) : Option Level :=
  if isRoot name then none else given.reverse.lookup name

lemma lastGiven_append (earlier later : List (String × Level)) (name : String) :
    lastGiven (earlier ++ later) name = (lastGiven later name).or (lastGiven earlier name) := by
  simp only [lastGiven]
  split_ifs
  · rfl
  · rw [List.reverse_append, List.lookup_append]

private lemma lookup_filter_ne {α : Type} (entries : List (String × α)) {name x : String}
    (h : x ≠ name) : (entries.filter fun e => e.1 != name).lookup x = entries.lookup x := by
  induction entries with
  | nil => rfl
  | cons e entries ih =>
      rw [List.filter_cons, List.lookup_cons]
      by_cases hname : e.1 = name
      · have hx : (x == e.1) = false := by simp [hname, h]
        rw [hx, if_neg (by simp [hname]), ih]
      · rw [if_pos (by simpa using hname), List.lookup_cons, ih]

/-- Giving a level to a logger changes the level of no other logger. -/
lemma lookup_setLevel (s : Loggers) (name : String) (l : Level) (x : String) :
    (s.setLevel name l).own.lookup x = (lastGiven [(name, l)] x).or (s.own.lookup x) := by
  simp only [setLevel, lastGiven, List.reverse_singleton, List.lookup_cons, List.lookup_nil]
  by_cases hx : x = name
  · subst hx
    split_ifs <;> simp
  · have hne : (x == name) = false := beq_eq_false_iff_ne.mpr hx
    rw [hne, ite_self, Option.none_or]
    split_ifs
    · rfl
    · rw [List.lookup_cons, hne]
      exact lookup_filter_ne s.own hx

/-- **A logger has the level that it was given last.** -/
theorem lookup_setLevels (s : Loggers) (given : List (String × Level)) (x : String) :
    (s.setLevels given).own.lookup x = (lastGiven given x).or (s.own.lookup x) := by
  induction given generalizing s with
  | nil => simp [setLevels, lastGiven]
  | cons e given ih =>
      rw [setLevels_cons, ih, lookup_setLevel, ← Option.or_assoc, ← lastGiven_append,
        List.singleton_append]

/-- The level of the root depends on what it was given, not on the other loggers. -/
lemma root_setLevels {s t : Loggers} (h : s.root = t.root) (given : List (String × Level)) :
    (s.setLevels given).root = (t.setLevels given).root := by
  induction given generalizing s t with
  | nil => exact h
  | cons e given ih =>
      refine ih ?_
      simp only [setLevel]
      split_ifs
      · rfl
      · exact h

/-! ## Levels in force -/

/-- The loggers that decide for a logger above are the rest of those that decide. -/
lemma deciding_of_suffix {name x : String} {rest : List String} (h : x :: rest <:+ deciding name)
    (hx : isRoot x = false) : deciding x = x :: rest := by
  rw [deciding] at h
  split_ifs at h with hroot
  · simp at h
  · rw [deciding, hx, if_neg Bool.false_ne_true]
    rcases List.suffix_cons_iff.mp h with heq | hsuffix
    · cases heq
      rfl
    · rw [Text.outerNames_of_suffix hsuffix]

/-- Let two states have the same level for the root, and let no other logger have a level in the second
but the one that it has in the first.  The same levels are in force in both exactly if each further level
of the first is the one in force in the second. -/
theorem effective_eq_iff {s t : Loggers} (root : s.root = t.root)
    (below : ∀ x, isRoot x = true → s.own.lookup x = none)
    (kept : ∀ x, t.own.lookup x = none ∨ t.own.lookup x = s.own.lookup x) :
    (∀ name, s.effective name = t.effective name) ↔
      ∀ x l, t.own.lookup x = none → s.own.lookup x = some l → l = 0 ∨ l = t.effective x := by
  have hbelow : ∀ x l, s.own.lookup x = some l → isRoot x = false := by
    intro x l hx
    by_contra hroot
    rw [below x (by simpa using hroot)] at hx
    cases hx
  constructor
  · intro same x l _ hx
    by_cases hl : l = 0
    · exact .inl hl
    · right
      rw [← same x, effective, deciding, hbelow x l hx]
      simp [firstSet, hx, hl]
  · intro further name
    -- along the loggers that decide: the first with a level has it in both, or it has a further level
    have upward : ∀ names, names <:+ deciding name →
        firstSet (names.map (fun n => (s.own.lookup n).getD 0) ++ [s.root]) =
          firstSet (names.map (fun n => (t.own.lookup n).getD 0) ++ [t.root]) := by
      intro names hnames
      induction names with
      | nil => rw [List.map_nil, List.map_nil, root]
      | cons x names ih =>
          have hrest := ih ((List.suffix_cons x names).trans hnames)
          simp only [List.map_cons, List.cons_append, firstSet]
          rcases kept x with hlacks | hsame
          · rw [hlacks, Option.getD_none, if_pos rfl, ← hrest]
            split_ifs with hzero
            · rfl
            · obtain ⟨l, hl⟩ : ∃ l, s.own.lookup x = some l :=
                Option.ne_none_iff_exists'.mp fun hnone => hzero (by rw [hnone, Option.getD_none])
              rw [hl, Option.getD_some] at hzero ⊢
              rcases further x l hlacks hl with h | h
              · exact absurd h hzero
              · rw [h, effective, deciding_of_suffix hnames (hbelow x l hl), hrest]
                simp [firstSet, hlacks]
          · rw [hsame, hrest]
    exact upward _ List.suffix_rfl

end Loggers

/-! ## Calls -/

namespace LogSettings

/-- The levels that settings give to loggers by name; after a name that is none there are no more. -/
def namedLevels : List (Value × String) → List (String × Level)
  | [] => []
  | (.str name, word) :: rest => (name, .ofWord word) :: namedLevels rest
  | (v, word) :: rest => if v.truthy then [] else ("", .ofWord word) :: namedLevels rest

/-- The levels that settings give, that of the root first. -/
def given (s : LogSettings) : List (String × Level) := ("", .ofWord s.root) :: namedLevels s.modules

/-- The levels that settings give if they can be read. -/
def givenIn : Except Fault LogSettings → List (String × Level)
  | .ok s => s.given
  | .error _ => []

end LogSettings

namespace Log

/-- The log with settings put into force; if they cannot be read, it stays as it is. -/
def adopt (log : Log) : Except Fault LogSettings → Log
  | .ok s => (log.configure s).1
  | .error _ => log

/-- The log after it was set up as a configuration says. -/
def setUp (log : Log) (call : Config × Environment) : Log := log.adopt (call.1.logSettings call.2)

/-- The log after a sequence of calls. -/
def setUpAll (log : Log) (calls : List (Config × Environment)) : Log := calls.foldl setUp log

/-- The levels that a call gives. -/
def givenBy (call : Config × Environment) : List (String × Level) :=
  LogSettings.givenIn (call.1.logSettings call.2)

/-- Setting the levels of named loggers gives these levels in turn. -/
lemma setModules_eq (s : Loggers) (modules : List (Value × String)) :
    (setModules s modules).1 = s.setLevels (LogSettings.namedLevels modules) := by
  induction modules generalizing s with
  | nil => rfl
  | cons module modules ih =>
      obtain ⟨name, level⟩ := module
      by_cases htext : ∃ t, name = .str t
      · obtain ⟨t, rfl⟩ := htext
        exact ih (s.setLevel t (.ofWord level))
      · have hname : ∀ t, name = .str t → False := fun t ht => htext ⟨t, ht⟩
        rw [setModules, LogSettings.namedLevels]
        · split_ifs with htruthy
          · rfl
          · exact ih (s.setLevel "" (.ofWord level))
        · exact hname
        · exact hname

/-- The level of the root is given like that of a logger without a name. -/
lemma loggers_configure (log : Log) (s : LogSettings) :
    (log.configure s).1.loggers = log.loggers.setLevels s.given := by
  rw [LogSettings.given, Loggers.setLevels_cons, Loggers.setLevel_root, ← setModules_eq]
  rfl

lemma loggers_adopt (log : Log) (read : Except Fault LogSettings) :
    (log.adopt read).loggers = log.loggers.setLevels (LogSettings.givenIn read) := by
  cases read with
  | ok s => exact loggers_configure log s
  | error f => rfl

/-- **One call** gives the levels of its configuration. -/
theorem loggers_setUp (log : Log) (call : Config × Environment) :
    (log.setUp call).loggers = log.loggers.setLevels (givenBy call) :=
  loggers_adopt log (call.1.logSettings call.2)

/-- **Of a sequence of calls, only the levels given in them count.** -/
theorem loggers_setUpAll (log : Log) (calls : List (Config × Environment)) :
    (log.setUpAll calls).loggers = log.loggers.setLevels (calls.flatMap givenBy) := by
  induction calls generalizing log with
  | nil => rfl
  | cons call calls ih =>
      rw [setUpAll, List.foldl_cons, ← setUpAll, ih, loggers_setUp, List.flatMap_cons,
        Loggers.setLevels_append]

/-- The root always has the level of the last settings, which give it one first. -/
lemma root_given (s t : Loggers) (settings : LogSettings) :
    (s.setLevels settings.given).root = (t.setLevels settings.given).root := by
  rw [LogSettings.given, Loggers.setLevels_cons, Loggers.setLevels_cons, Loggers.setLevel_root,
    Loggers.setLevel_root]
  refine Loggers.root_setLevels ?_ _
  rfl

/-- **When the last call alone decides.**  Let a configuration be put into force after any calls.  Every
logger then has the level in force that this configuration alone would give exactly if nothing else is
left over: each logger that it does not name, and to which the earlier calls gave a level last, was
given none, or the level that the configuration alone would put into force for it. -/
theorem setUp_replaces_iff (calls : List (Config × Environment)) {last : Config × Environment}
    {s : LogSettings} (readable : last.1.logSettings last.2 = .ok s) :
    (∀ name, ((fresh.setUpAll calls).setUp last).loggers.effective name =
        (fresh.setUp last).loggers.effective name) ↔
      ∀ name l, Loggers.lastGiven s.given name = none →
        Loggers.lastGiven (calls.flatMap givenBy) name = some l →
        l = 0 ∨ l = (fresh.setUp last).loggers.effective name := by
  have hgiven : givenBy last = s.given := by
    rw [givenBy, readable, LogSettings.givenIn]
  have hafter : ((fresh.setUpAll calls).setUp last).loggers =
      Loggers.fresh.setLevels (calls.flatMap givenBy ++ s.given) := by
    rw [loggers_setUp, loggers_setUpAll, hgiven, Loggers.setLevels_append]
    rfl
  have halone : (fresh.setUp last).loggers = Loggers.fresh.setLevels s.given := by
    rw [loggers_setUp, hgiven]
    rfl
  have hroot : (Loggers.fresh.setLevels (calls.flatMap givenBy ++ s.given)).root =
      (Loggers.fresh.setLevels s.given).root := by
    rw [Loggers.setLevels_append]
    exact root_given _ _ s
  have hlookup : ∀ given x, (Loggers.fresh.setLevels given).own.lookup x =
      Loggers.lastGiven given x := by
    intro given x
    rw [Loggers.lookup_setLevels]
    exact Option.or_none
  rw [hafter, halone, Loggers.effective_eq_iff hroot]
  · simp only [hlookup, Loggers.lastGiven_append]
    constructor
    · intro h name l hlast hleft
      refine h name l hlast ?_
      rw [hlast, hleft, Option.none_or]
    · intro h name l hlast hleft
      rw [hlast, Option.none_or] at hleft
      exact h name l hlast hleft
  · intro x hx
    rw [hlookup, Loggers.lastGiven, if_pos hx]
  · intro x
    simp only [hlookup, Loggers.lastGiven_append]
    cases Loggers.lastGiven s.given x with
    | none => exact .inl rfl
    | some l => exact .inr rfl

/-- Settings can be read if they give any level. -/
lemma readable_of_givenBy {call : Config × Environment} {e : String × Level}
    {given : List (String × Level)} (h : givenBy call = e :: given) :
    ∃ s, call.1.logSettings call.2 = .ok s ∧ s.given = e :: given := by
  rw [givenBy] at h
  cases hread : call.1.logSettings call.2 with
  | ok s =>
      rw [hread] at h
      exact ⟨s, rfl, h⟩
  | error f =>
      rw [hread] at h
      cases h

/-- A configuration that gives levels to loggers, where no variables are set. -/
def levelSettings (levels : List (String × String)) : Config × Environment :=
  (⟨Layer.table [("speclogic", Layer.table [("logging", Layer.table [("level",
    Layer.table (levels.map fun e => (e.1, .str e.2)))])])], []⟩, ⟨[]⟩)

/-- An application of which only the store tells more than errors. -/
def storeSettings : Config × Environment :=
  levelSettings [("root", "info"), ("app", "error"), ("app.store", "debug")]

/-- The same with the web part in the place of the store. -/
def webSettings : Config × Environment :=
  levelSettings [("root", "error"), ("web", "debug"), ("app.store", "notset")]

lemma givenBy_storeSettings :
    givenBy storeSettings = [("", 20), ("app", 40), ("app.store", 10)] := by
  decide +kernel

lemma givenBy_webSettings : givenBy webSettings = [("", 40), ("web", 10), ("app.store", 0)] := by
  decide +kernel

/-- The store's level is taken back by name, and what is left over for the application is the level
that the root has now. -/
theorem setUp_replaces_iff_web :
    ((fresh.setUpAll [storeSettings]).setUp webSettings).loggers.effective "app.store" =
      (fresh.setUp webSettings).loggers.effective "app.store" := by
  obtain ⟨s, readable, hgiven⟩ := readable_of_givenBy givenBy_webSettings
  refine (setUp_replaces_iff [storeSettings] readable).mpr (fun name l hlast hleft => ?_) "app.store"
  rw [hgiven] at hlast
  rw [List.flatMap_singleton, givenBy_storeSettings] at hleft
  have hstore : name ≠ "app.store" := by
    rintro rfl
    exact absurd hlast (by decide)
  have hroot : Loggers.isRoot name = false := by
    by_contra hroot
    rw [Loggers.lastGiven, if_pos (by simpa using hroot)] at hleft
    cases hleft
  have hname : name ≠ "" := by
    rintro rfl
    exact absurd hroot (by decide)
  obtain ⟨rfl, rfl⟩ : name = "app" ∧ l = 40 := by
    rw [Loggers.lastGiven, hroot] at hleft
    by_cases happ : name = "app"
    · simp_all [List.lookup_cons]
    · simp [List.lookup_cons, beq_eq_false_iff_ne.mpr hstore, beq_eq_false_iff_ne.mpr hname,
        beq_eq_false_iff_ne.mpr happ] at hleft
  right
  rw [loggers_setUp, givenBy_webSettings]
  rfl

/-- Set up the other way round, the level of the web part is left over. -/
theorem setUp_leftover :
    ((fresh.setUpAll [webSettings]).setUp storeSettings).loggers.effective "web" = 10 ∧
      (fresh.setUp storeSettings).loggers.effective "web" = 20 := by
  rw [loggers_setUp, loggers_setUp, loggers_setUpAll, List.flatMap_singleton, givenBy_storeSettings,
    givenBy_webSettings]
  decide

end Log

end Criteria
