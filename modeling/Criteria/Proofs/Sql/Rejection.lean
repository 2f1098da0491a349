import Criteria.Proofs.Eval.Quiet
import Criteria.Proofs.Expr.Foreign
import Criteria.Proofs.Scope.Walk

/-!
# What the clause builder refuses

Connectives fold truth values away, and a conditional selects one of its branches.  The clause builder
goes into all operands before either happens, so a node without a clause is refused wherever it stands.

* `Offends` — the nodes for which there is no clause.
* `not_offends_of_accepted` — they denote nothing.
* `children_accepted` — a node denotes something only if all its children do.
* **`offending_refused`** — hence a tree with such a node is refused.
-/

namespace Criteria.Sql

/-- The nodes for which there is no clause over the entity class, if `p` is the entity. -/
inductive Offends (root : EntityClass) (p : Param) : Expr → Prop where
  | call (f : Callee) (args : List Expr) (label : Option String) : Offends root p (.call f args label)
  | lambda (binder body : Expr) : Offends root p (.lambda binder body)
  /-- A member of something other than a parameter. -/
  | nested {target : Expr} (name : String) (nested : target.asParam? = none) :
      Offends root p (.member target name)
  /-- Another parameter. -/
  | stray {q : Param} (other : q ≠ p) : Offends root p (.param q)
  /-- A member that the entity class does not have. -/
  | unmapped (target : Expr) {name : String} (missing : root.attribute? name = none) :
      Offends root p (.member target name)

variable {root : EntityClass} {p : Param}

/-- What a member denotes is an attribute of a class for which the parameter stands. -/
lemma memberOperand_eq_ok {binder target : Expr} {name : String} {o : Operand}
    (h : memberOperand root binder target name = .ok o) :
    ∃ q o', target = .param q ∧ root.attribute? name ≠ none ∧ rootOperand root binder q = .ok o' := by
  unfold memberOperand at h
  split at h
  next q =>
    obtain ⟨o', hroot, h⟩ := bind_eq_ok.mp h
    refine ⟨q, o', rfl, fun hmissing => ?_, hroot⟩
    rw [hmissing] at h
    cases h
  next => cases h

/-- **A node without a clause denotes nothing.** -/
theorem not_offends_of_accepted {e : Expr} {o : Operand} (h : operandOf root (.param p) e = .ok o) :
    ¬ Offends root p e := by
  rintro (_ | _ | ⟨name, hnested⟩ | hother | ⟨target, hmissing⟩)
  · cases h
  · cases h
  · obtain ⟨q, -, rfl, -⟩ := memberOperand_eq_ok h
    cases hnested
  · have hforeign : ¬ (Expr.param p).asParam? = some _ := fun hq => hother (Option.some.inj hq).symm
    rw [operandOf, rootOperand, if_neg hforeign] at h
    cases h
  · obtain ⟨-, -, -, hattribute, -⟩ := memberOperand_eq_ok h
    exact hattribute hmissing

/-- **A node denotes something only if all its children do**, those included that do not show in the
clause. -/
theorem children_accepted {binder : Expr} : ∀ (e : Expr) (cs : List Expr),
    (∃ o, operandOf root binder e = .ok o) → e.children? = .ok cs →
      ∀ c ∈ cs, ∃ o, operandOf root binder c = .ok o
  | .param _, _, _, hcs | .const _, _, _, hcs => by
      cases hcs
      exact List.forall_mem_nil _
  | .member target name, _, ⟨_, h⟩, hcs => by
      cases hcs
      obtain ⟨q, o, rfl, -, hroot⟩ := memberOperand_eq_ok h
      exact List.forall_mem_singleton.mpr ⟨o, hroot⟩
  | .compare op l r, _, ⟨_, h⟩, hcs => by
      cases hcs
      obtain ⟨a, hl, h⟩ := bind_eq_ok.mp h
      obtain ⟨b, hr, -⟩ := bind_eq_ok.mp h
      simpa using ⟨⟨a, hl⟩, ⟨b, hr⟩⟩
  | .and l r, _, ⟨_, h⟩, hcs | .or l r, _, ⟨_, h⟩, hcs => by
      cases hcs
      obtain ⟨a, hl, h⟩ := bind_eq_ok.mp h
      obtain ⟨_, -, h⟩ := bind_eq_ok.mp h
      obtain ⟨b, hr, -⟩ := bind_eq_ok.mp h
      simpa using ⟨⟨a, hl⟩, ⟨b, hr⟩⟩
  | .not e, _, ⟨_, h⟩, hcs => by
      cases hcs
      obtain ⟨a, he, -⟩ := bind_eq_ok.mp h
      exact List.forall_mem_singleton.mpr ⟨a, he⟩
  | .cond test yes no, _, ⟨_, h⟩, hcs => by
      cases hcs
      obtain ⟨t, htest, h⟩ := bind_eq_ok.mp h
      obtain ⟨_, -, h⟩ := bind_eq_ok.mp h
      obtain ⟨a, hyes, h⟩ := bind_eq_ok.mp h
      obtain ⟨b, hno, -⟩ := bind_eq_ok.mp h
      simpa using ⟨⟨t, htest⟩, ⟨a, hyes⟩, ⟨b, hno⟩⟩
  | .call .., _, ⟨_, h⟩, _ | .lambda .., _, ⟨_, h⟩, _ | .tagged .., _, ⟨_, h⟩, _
  | .unknown _, _, ⟨_, h⟩, _ | .raw _, _, ⟨_, h⟩, _ => by cases h

/-- **A tree with a node that has no clause is refused**, wherever the node stands: on either side of a
comparison, in any branch of a conditional, or beside an operand that decides a connective. -/
theorem offending_refused {body e : Expr} {nodes : List Expr} (walked : body.walk = .ok nodes)
    (visited : e ∈ nodes) (offends : Offends root p e) :
    ∃ err, Clause.ofLambda root ⟨.param p, body⟩ = .error err := by
  refine exists_error_of_not_ok fun c accepted => ?_
  obtain ⟨o, hbody, -⟩ := bind_eq_ok.mp accepted
  obtain ⟨o', he⟩ := Expr.forall_walk children_accepted walked ⟨o, hbody⟩ e visited
  exact not_offends_of_accepted he offends

/-- A condition on a member, in the branch of a conditional beside a condition that always holds. -/
def disguised (p : Param) (name : String) : Expr :=
  .or (.const ⟨.bool true, ⟨0, []⟩⟩)
    (.cond (.member (.param p) "active") (.const ⟨.bool true, ⟨0, []⟩⟩)
      (.compare .lt (.const ⟨.int 100, ⟨2, []⟩⟩) (.member (.param p) name)))

/-- The table of people has ages, but no salaries. -/
theorem offending_refused_disguised :
    ∃ nodes, (disguised ⟨1, "p"⟩ "salary").walk = .ok nodes ∧
      Expr.member (.param ⟨1, "p"⟩) "salary" ∈ nodes ∧
      Offends .user ⟨1, "p"⟩ (.member (.param ⟨1, "p"⟩) "salary") ∧
      (∃ err, Clause.ofLambda .user ⟨.param ⟨1, "p"⟩, disguised ⟨1, "p"⟩ "salary"⟩ = .error err) ∧
      ∃ c, Clause.ofLambda .user ⟨.param ⟨1, "p"⟩, disguised ⟨1, "p"⟩ "age"⟩ = .ok c := by
  have hwalk : ∃ nodes, (disguised ⟨1, "p"⟩ "salary").walk = .ok nodes ∧
      Expr.member (.param ⟨1, "p"⟩) "salary" ∈ nodes := by
    rw [Expr.walk_eq_preorder]
    exact ⟨_, rfl, by simp⟩
  obtain ⟨nodes, walked, visited⟩ := hwalk
  have offends : Offends .user ⟨1, "p"⟩ (.member (.param ⟨1, "p"⟩) "salary") := .unmapped _ rfl
  exact ⟨nodes, walked, visited, offends, offending_refused walked visited offends, _, rfl⟩

end Criteria.Sql
