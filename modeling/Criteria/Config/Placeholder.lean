import Criteria.Config.Environment
import Criteria.Config.Tree

/-!
# Placeholders

A text may hold placeholders: a dollar sign and, in braces, a name with an optional fallback after a
colon. A name stands for the environment variable of that name, else for the setting with that key,
else for the fallback.

* `Placeholder.pieces` cuts a text into literal runs and placeholders; `render_pieces` says that
  nothing is lost.
* `Placeholder.expand` replaces placeholders. Only the text of a setting is expanded in turn, to a
  fixed depth, so a chain of settings that leads back to itself is a fault.
-/

namespace Criteria.Placeholder

/-- A run of a text. -/
inductive Piece where
  | literal (cs : List Char)
  /-- A placeholder, by what stands between its braces. -/
  | slot (body : List Char)
  deriving DecidableEq, Repr

/-- The run as it is written. -/
def Piece.chars : Piece → List Char
  | literal cs => cs
  | slot body => '$' :: '\x7b' :: (body ++ ['\x7d'])

/-- One more character in front. -/
def prepend (c : Char) : List Piece → List Piece
  | .literal cs :: rest => .literal (c :: cs) :: rest
  | rest => .literal [c] :: rest

/-- The body of the placeholder that starts with a text after its opening brace, and what follows
its closing brace. A body is not empty. -/
def body? (cs : List Char) : Option (List Char × List Char) :=
  match cs.takeWhile (· != '\x7d'), cs.dropWhile (· != '\x7d') with
  | c :: body, _ :: rest => some (c :: body, rest)
  | _, _ => none

theorem eq_of_body? {cs body rest : List Char} (h : body? cs = some (body, rest)) :
    cs = body ++ '\x7d' :: rest := by
  have split := List.takeWhile_append_dropWhile (p := (· != '\x7d')) (l := cs)
  have closing : ∀ c tail, cs.dropWhile (· != '\x7d') = c :: tail → c = '\x7d' := by
    intro c tail hd
    have := List.head_dropWhile_not (· != '\x7d') (l := cs) (by simp [hd])
    simpa [hd] using this
  unfold body? at h
  split at h
  · next heq₁ heq₂ =>
    simp only [Option.some.injEq, Prod.mk.injEq] at h
    rw [heq₁, heq₂, closing _ _ heq₂, h.1, h.2] at split
    exact split.symm
  · simp at h

theorem length_of_body? {cs body rest : List Char} (h : body? cs = some (body, rest)) :
    rest.length < cs.length := by
  rw [eq_of_body? h]
  simp
  omega

/-- The runs of a text. -/
def pieces : List Char → List Piece
  | [] => []
  | '$' :: '\x7b' :: cs =>
    match _h : body? cs with
    | some (body, rest) => .slot body :: pieces rest
    | none => prepend '$' (pieces ('\x7b' :: cs))
  | c :: cs => prepend c (pieces cs)
termination_by cs => cs.length
decreasing_by
  · have := length_of_body? _h
    simp
    omega
  · simp
  · simp

theorem chars_prepend (c : Char) (ps : List Piece) :
    (prepend c ps).flatMap Piece.chars = c :: ps.flatMap Piece.chars := by
  cases ps with
  | nil => simp [prepend, Piece.chars]
  | cons p ps => cases p <;> simp [prepend, Piece.chars]

/-- The pieces of a text make up the text. -/
theorem render_pieces (cs : List Char) : (pieces cs).flatMap Piece.chars = cs := by
  fun_induction pieces cs with
  | case1 => rfl
  | case2 cs body rest h ih => simp [Piece.chars, ih, eq_of_body? h]
  | case3 cs h ih => simp [chars_prepend, ih]
  | case4 c cs h ih => simp [chars_prepend, ih]

/-- The name in a placeholder's body, and the fallback if there is a colon. -/
def parts (body : List Char) : String × Option String :=
  let name := body.takeWhile (· != ':')
  match body.dropWhile (· != ':') with
  | [] => (String.ofList name, none)
  | _ :: fallback => (String.ofList name, some (String.ofList fallback))

/-- Whether a text may hold a placeholder. -/
def mayHold (text : String) : Bool := occursIn ['$', '\x7b'] text.toList

/-- What a placeholder stands for; `expand` is applied to the text of a setting. -/
def resolve (env : Environment) (data : Value) (expand : String → Except Fault String)
    (body : List Char) : Except Fault String :=
  let (name, fallback) := parts body
  match env.read name, (data.lookup name).getD .none, fallback with
  | .error f, _, _ => .error f
  | .ok (some text), _, _ => .ok text
  | .ok none, .none, some text => .ok text
  | .ok none, .none, none => .error (.unresolvedPlaceholder (String.ofList body))
  | .ok none, v, _ =>
    if !v.isWritable then .error .unwritableInteger
    else if mayHold v.text then expand v.text else .ok v.text

/-- The text of the pieces, the placeholders resolved from left to right. -/
def substitute (resolve : List Char → Except Fault String) : List Piece → Except Fault String
  | [] => .ok ""
  | .literal cs :: rest => do return String.ofList cs ++ (← substitute resolve rest)
  | .slot body :: rest => do
    let text ← resolve body
    return text ++ (← substitute resolve rest)

/-- Replaces the placeholders of a text; settings are followed to the given depth. -/
def expandTo (env : Environment) (data : Value) : (depth : Nat) → String → Except Fault String
  | 0, text => .error (.nestedPlaceholders text)
  | depth + 1, text =>
    substitute (resolve env data (expandTo env data depth)) (pieces text.toList)

/-- The number of texts that a chain of settings may have. -/
def depthLimit : Nat := 11

/-- Replaces the placeholders of a text. -/
def expand (env : Environment) (data : Value) (text : String) : Except Fault String :=
  expandTo env data depthLimit text

end Criteria.Placeholder
