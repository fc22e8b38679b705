import Gosub.Evaluation.Expression

/-! Expressions step by step: what substitution does with each kind of token, the induction that
goes with it, and what it reads of an environment.
-/

namespace Gosub

/-- Whether the token is looked up when an expression is evaluated. -/
def Token.isReference : Token → Bool
  | .name _ | .indexed _ => true
  | _ => false

namespace Environment

-----------------------------------------------------------------------------------------
-- Equations
-----------------------------------------------------------------------------------------

variable (env : Environment)

theorem substitute_nil : env.substitute [] = .ok [] := by
  rw [substitute]

theorem substitute_name (name : String) (rest : List Token)
    : env.substitute (.name name :: rest)
      = (do
        let value ← env.read name
        let rest ← env.substitute rest
        .ok (Token.ofValue value :: rest)) := by
  rw [substitute]

/-- A cell is fetched under the values of its index groups. -/
theorem substitute_cell (name : String) (rest : List Token)
    : env.substitute (.indexed name :: rest)
      = (do
        let (groups, after) ← Indices.split rest
        let indices ← env.evaluateAll groups
        let value ← env.fetchCell name indices
        let after ← env.substitute after
        .ok (Token.ofValue value :: after)) := by
  rw [substitute]
  split
  · next failed => rw [failed]; rfl
  · next groups after divided =>
    have evaluated : groups.attach.mapM (fun group => env.evaluate group.val)
        = env.evaluateAll groups := by
      rw [List.mapM_subtype (g := env.evaluate) fun _ _ => rfl, List.unattach_attach]
      rfl
    simp only [evaluate] at evaluated
    simp only [divided, evaluated]
    rfl

theorem substitute_plain {token : Token} (plain : token.isReference = false) (rest : List Token)
    : env.substitute (token :: rest) = (env.substitute rest).map (token :: ·) := by
  cases token with
  | name | indexed => cases plain
  | _ =>
      rw [substitute]
      · cases env.substitute rest <;> rfl
      all_goals
        intro _ same
        cases same

/-- Substitution goes through the tokens from left to right, and through the index groups of a cell
before what follows them.
-/
theorem substitutionInduction {motive : List Token → Prop} (nil : motive [])
    (name : ∀ name rest, motive rest → motive (.name name :: rest))
    (cell
      : ∀ name rest,
          (∀ groups after,
            Indices.split rest = .ok (groups, after)
            → (∀ group ∈ groups, motive group) ∧ motive after)
          → motive (.indexed name :: rest))
    (plain : ∀ token rest, token.isReference = false → motive rest → motive (token :: rest))
    (tokens : List Token)
    : motive tokens := by
  induction length : tokens.length using Nat.strongRecOn generalizing tokens with
  | ind n ih =>
      subst length
      cases tokens with
      | nil => exact nil
      | cons token rest =>
          have tail := ih rest.length (Nat.lt_succ_self _) rest rfl
          cases token with
          | name s => exact name s rest tail
          | indexed s =>
              refine cell s rest fun groups after divided => ?_
              obtain ⟨shorter, shorterAfter⟩ := Indices.length_lt_of_split divided
              refine ⟨fun group member => ih _ ?_ group rfl, ih _ ?_ after rfl⟩
              · exact Nat.lt_succ_of_lt (shorter group member)
              · exact Nat.lt_succ_of_lt shorterAfter
          | _ => exact plain _ rest rfl tail

-----------------------------------------------------------------------------------------
-- What an expression reads
-----------------------------------------------------------------------------------------

/-- Index groups with the same values one by one have the same values all together. -/
theorem evaluateAll_congr {env env' : Environment} {groups : List (List Token)}
    (same : ∀ group ∈ groups, env'.evaluate group = env.evaluate group)
    : env'.evaluateAll groups = env.evaluateAll groups := by
  unfold evaluateAll
  induction groups with
  | nil => rfl
  | cons group groups ih =>
      rw [List.forall_mem_cons] at same
      rw [List.mapM_cons, List.mapM_cons, same.1, ih same.2]

/-- Two environments have the same memory and the same namespace. -/
structure SameMemory (env env' : Environment) : Prop where
  store : env'.store = env.store
  scope : env'.scope = env.scope

namespace SameMemory

variable {env env' : Environment} (same : env.SameMemory env')
include same

theorem qualify_eq (name : String) : env'.qualify name = env.qualify name := by
  rw [qualify, qualify, same.scope]

theorem fetch_eq (name : String) : env'.fetch name = env.fetch name := by
  rw [fetch, fetch, same.store, same.qualify_eq]

theorem fetchCell_eq (name : String) (indices : List Value)
    : env'.fetchCell name indices = env.fetchCell name indices := by
  rw [fetchCell, fetchCell, same.store, same.qualify_eq]

theorem read_eq (name : String) : env'.read name = env.read name := by
  rw [read, read, same.store, same.qualify_eq, same.fetchCell_eq, same.fetch_eq]

/-- Substitution reads only the memory and the namespace, by induction along the tokens. -/
theorem substitute_eq (tokens : List Token) : env'.substitute tokens = env.substitute tokens := by
  induction tokens using substitutionInduction with
  | nil => rw [substitute_nil, substitute_nil]
  | name name rest ih => rw [substitute_name, substitute_name, same.read_eq, ih]
  | cell name rest ih =>
      rw [substitute_cell, substitute_cell]
      cases divided : Indices.split rest with
      | error fault => rfl
      | ok found =>
          obtain ⟨groups, after⟩ := found
          obtain ⟨inside, behind⟩ := ih groups after divided
          have evaluated : env'.evaluateAll groups = env.evaluateAll groups :=
            evaluateAll_congr fun group member => by rw [evaluate, evaluate, inside group member]
          simp only [bind, Except.bind, evaluated, behind, same.fetchCell_eq]
  | plain token rest plain ih => rw [substitute_plain _ plain, substitute_plain _ plain, ih]

theorem evaluate_eq (tokens : List Token) : env'.evaluate tokens = env.evaluate tokens := by
  rw [evaluate, evaluate, same.substitute_eq]

theorem evaluateAll_eq (groups : List (List Token))
    : env'.evaluateAll groups = env.evaluateAll groups := by
  have evaluates : env'.evaluate = env.evaluate := funext same.evaluate_eq
  rw [evaluateAll, evaluateAll, evaluates]

theorem holds_eq (tokens : List Token) : env'.holds tokens = env.holds tokens := by
  have evaluates : env'.evaluate = env.evaluate := funext same.evaluate_eq
  simp only [holds, test, evaluates]

end SameMemory

end Environment

end Gosub
