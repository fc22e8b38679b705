import Gosub.Fault

/-! Index groups: the bracketed expressions that follow the name of an array. -/

namespace Gosub.Indices

/-- The opening bracket of a group. -/
def opening : Token := .operator .leftBracket

/-- The closing bracket of a group. -/
def closing : Token := .operator .rightBracket

/-- Divides the tokens after an opening bracket at the bracket that closes it, where `depth`
further brackets are open. -/
def close? : Nat → List Token → Option (List Token × List Token)
  | _, [] => none
  | depth, token :: tokens =>
    if token = opening then
      (close? (depth + 1) tokens).map fun (group, rest) => (token :: group, rest)
    else if token = closing then
      match depth with
      | 0 => some ([], tokens)
      | depth + 1 => (close? depth tokens).map fun (group, rest) => (token :: group, rest)
    else (close? depth tokens).map fun (group, rest) => (token :: group, rest)

/-- A closed group, its bracket and the rest are all of the tokens. -/
theorem length_of_close? {depth : Nat} {tokens group rest : List Token}
    (closed : close? depth tokens = some (group, rest))
    : group.length + rest.length + 1 = tokens.length := by
  induction tokens generalizing depth group with
  | nil => simp [close?] at closed
  | cons token tokens ih =>
    unfold close? at closed
    split at closed
    · simp only [Option.map_eq_some_iff, Prod.exists, Prod.mk.injEq] at closed
      obtain ⟨inner, _, found, rfl, rfl⟩ := closed
      have := ih found
      simp only [List.length_cons]
      omega
    · split at closed
      · split at closed
        · simp only [Option.some.injEq, Prod.mk.injEq] at closed
          obtain ⟨rfl, rfl⟩ := closed
          simp
        · simp only [Option.map_eq_some_iff, Prod.exists, Prod.mk.injEq] at closed
          obtain ⟨inner, _, found, rfl, rfl⟩ := closed
          have := ih found
          simp only [List.length_cons]
          omega
      · simp only [Option.map_eq_some_iff, Prod.exists, Prod.mk.injEq] at closed
        obtain ⟨inner, _, found, rfl, rfl⟩ := closed
        have := ih found
        simp only [List.length_cons]
        omega

/-- The leading index groups of a token list and the tokens after them. There must be at least one
group, and each must be closed and not empty. -/
def split (tokens : List Token) : Except Fault (List (List Token) × List Token) :=
  match tokens with
  | [] => .error .expectedBracket
  | token :: tokens =>
    if token = opening then
      match closed : close? 0 tokens with
      | none => .error .missingBracket
      | some ([], _) => .error .emptyIndex
      | some (group, rest) =>
        have := length_of_close? closed
        if rest.head? = some opening then
          (split rest).map fun (groups, rest) => (group :: groups, rest)
        else .ok ([group], rest)
    else .error .expectedBracket
termination_by tokens.length

/-- Every group, and what follows the groups, is shorter than the whole; by induction over the
groups. -/
theorem length_lt_of_split {tokens rest : List Token} {groups : List (List Token)}
    (done : split tokens = .ok (groups, rest))
    : (∀ group ∈ groups, group.length < tokens.length) ∧ rest.length < tokens.length := by
  fun_induction split tokens generalizing groups rest with
  | case1 => cases done
  | case2 => cases done
  | case3 => cases done
  | case4 tokens group after _ closed _ more ih =>
    have length := length_of_close? closed
    cases later : split after with
    | error fault => simp [later, Except.map] at done
    | ok found =>
      obtain ⟨groups', rest'⟩ := found
      simp only [later, Except.map, Except.ok.injEq, Prod.mk.injEq] at done
      obtain ⟨rfl, rfl⟩ := done
      obtain ⟨each, last⟩ := ih later
      refine ⟨?_, by simp only [List.length_cons]; omega⟩
      intro g member
      rcases List.mem_cons.mp member with rfl | member
      · simp only [List.length_cons]; omega
      · have := each g member
        simp only [List.length_cons]; omega
  | case5 tokens group after _ closed _ more =>
    have length := length_of_close? closed
    cases done
    refine ⟨?_, by simp only [List.length_cons]; omega⟩
    intro g member
    rw [List.mem_singleton.mp member]
    simp only [List.length_cons]; omega
  | case6 => cases done

end Gosub.Indices
