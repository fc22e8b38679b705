import Gosub.Evaluation.Arithmetic
import Gosub.Proofs.Evaluation.Grammar

/-! Arithmetic follows its grammar. Evaluating while reading gives the value of the tree that the
tokens have, errors in the order of reading included, and an arithmetic error where they have none.
-/

namespace Gosub

open Grammar (Symbol Tree Derives)

/-- What a token is in the grammar. -/
def Token.symbol : Token → Symbol
  | .number digits =>
    match Decimal.read? digits with
    | some x => .number x
    | none => .other
  | .operator op => .sign op
  | _ => .other

/-- The value of a tree: that of the left operand first, then that of the right one, and then the
operation. The first error met in this order ends the evaluation.
-/
def Grammar.Tree.value : Tree → Except Fault Float
  | .number x => .ok x
  | .plus operand => operand.value
  | .minus operand => do
    let x ← operand.value
    .ok (-x)
  | .group inner => inner.value
  | .add left right => do
    let x ← left.value
    let y ← right.value
    Arithmetic.add x y
  | .subtract left right => do
    let x ← left.value
    let y ← right.value
    Arithmetic.subtract x y
  | .multiply left right => do
    let x ← left.value
    let y ← right.value
    Arithmetic.multiply x y
  | .divide left right => do
    let x ← left.value
    let y ← right.value
    Arithmetic.divide x y

theorem Token.eq_operator_of_symbol {token : Token} {op : Operator}
    (symbol : token.symbol = .sign op) : token = .operator op := by
  unfold Token.symbol at symbol
  split at symbol
  · split at symbol <;> cases symbol
  · cases symbol
    rfl
  · cases symbol

theorem Token.eq_number_of_symbol {token : Token} {x : Float} (symbol : token.symbol = .number x)
    : ∃ digits, token = .number digits := by
  unfold Token.symbol at symbol
  split at symbol
  · exact ⟨_, rfl⟩
  · cases symbol
  · cases symbol

namespace Arithmetic

theorem eq_cons_of_symbol {tokens : List Token} {op : Operator} {symbols : List Symbol}
    (sign : tokens.map Token.symbol = .sign op :: symbols)
    : ∃ after, tokens = .operator op :: after ∧ after.map Token.symbol = symbols := by
  obtain ⟨token, after, rfl, symbol, same⟩ := List.map_eq_cons_iff.mp sign
  exact ⟨after, by rw [Token.eq_operator_of_symbol symbol], same⟩

-----------------------------------------------------------------------------------------
-- Errors
-----------------------------------------------------------------------------------------

/-- Every error of the computation is an arithmetic one. -/
def Safe {α : Type} (outcome : Except Fault α) : Prop :=
  ∀ fault, outcome = .error fault → fault.kind = .arithmetic

theorem Safe.bind {α β : Type} {outcome : Except Fault α} {next : α → Except Fault β}
    (safe : Safe outcome) (later : ∀ x, Safe (next x)) : Safe (outcome >>= next) := by
  cases outcome with
  | error fault =>
      intro found failed
      cases failed
      exact safe fault rfl
  | ok x => exact later x

theorem finite_safe (x : Float) : Safe (finite x) := by
  intro fault failed
  unfold finite at failed
  split at failed <;> cases failed
  rfl

theorem divide_safe (x y : Float) : Safe (divide x y) := by
  unfold divide
  split
  · intro fault failed
    cases failed
    rfl
  · exact finite_safe _

theorem value_safe (tree : Tree) : Safe tree.value := by
  induction tree with
  | number x => exact fun _ failed => nomatch failed
  | plus _ operand | group _ operand => exact operand
  | minus _ operand => exact operand.bind fun _ _ failed => nomatch failed
  | add _ _ left right | subtract _ _ left right | multiply _ _ left right =>
      exact left.bind fun _ => right.bind fun _ => finite_safe _
  | divide _ _ left right => exact left.bind fun _ => right.bind fun _ => divide_safe _ _

-----------------------------------------------------------------------------------------
-- Reading with and without evaluating
-----------------------------------------------------------------------------------------

/-- Evaluating while reading has the outcome that reading the tree first would have: the value of
the tree and the tokens after it, or an arithmetic error where no tree is read.
-/
inductive Agrees : Option (Tree × List Symbol) → Except Fault (Float × List Token) → Prop
  | value (tree : Tree) (rest : List Token)
    : Agrees (some (tree, rest.map Token.symbol)) (tree.value.map (·, rest))
  | refused {fault : Fault} (kind : fault.kind = .arithmetic) : Agrees none (.error fault)

/-- Agreement goes on where the next readings agree from every tree and its value. -/
theorem Agrees.bind {found : Option (Tree × List Symbol)}
    {outcome : Except Fault (Float × List Token)}
    {next : Tree × List Symbol → Option (Tree × List Symbol)}
    {next' : Float × List Token → Except Fault (Float × List Token)}
    (agrees : Agrees found outcome)
    (later : ∀ tree rest,
      Agrees (next (tree, rest.map Token.symbol)) (tree.value >>= fun x => next' (x, rest)))
    : Agrees (found >>= next) (outcome >>= next') := by
  cases agrees with
  | refused kind => exact .refused kind
  | value tree rest =>
      have agrees := later tree rest
      cases evaluated : tree.value with
      | error fault =>
          rw [evaluated] at agrees
          exact agrees
      | ok x =>
          rw [evaluated] at agrees
          exact agrees

/-- A reading that fails after a tree is an arithmetic error, whatever the value of the tree is. -/
theorem Agrees.refused_after (tree : Tree) {fault : Fault} (kind : fault.kind = .arithmetic)
    : Agrees none (tree.value >>= fun _ => .error fault) := by
  cases evaluated : tree.value with
  | error earlier => exact .refused (value_safe tree earlier evaluated)
  | ok x => exact .refused kind

/-- The two readers agree on every token list. -/
def Readers (trees : Grammar.Reader) (values : Reader) : Prop :=
  ∀ tokens, Agrees (trees (tokens.map Token.symbol)) (values tokens)

/-- A sign is one of the rank for both readers or for none, and its node has the value of its
operation.
-/
def Signs (node? : Grammar.Nodes) (operation? : Token → Option Operation) : Prop :=
  ∀ token,
    (node? token.symbol = none ∧ operation? token = none)
    ∨ ∃ node apply, node? token.symbol = some node ∧ operation? token = some apply
        ∧ ∀ left right : Tree, (node left right).value
            = left.value >>= fun x => right.value >>= fun y => apply x y

theorem product_signs : Signs Grammar.productNode? productOperation? := by
  intro token
  cases token with
  | operator op =>
      cases op with
      | times => exact .inr ⟨_, _, rfl, rfl, fun _ _ => rfl⟩
      | slash => exact .inr ⟨_, _, rfl, rfl, fun _ _ => rfl⟩
      | _ => exact .inl ⟨rfl, rfl⟩
  | number digits =>
      refine .inl ⟨?_, rfl⟩
      simp only [Token.symbol]
      split <;> rfl
  | _ => exact .inl ⟨rfl, rfl⟩

theorem sum_signs : Signs Grammar.sumNode? sumOperation? := by
  intro token
  cases token with
  | operator op =>
      cases op with
      | plus => exact .inr ⟨_, _, rfl, rfl, fun _ _ => rfl⟩
      | minus => exact .inr ⟨_, _, rfl, rfl, fun _ _ => rfl⟩
      | _ => exact .inl ⟨rfl, rfl⟩
  | number digits =>
      refine .inl ⟨?_, rfl⟩
      simp only [Token.symbol]
      split <;> rfl
  | _ => exact .inl ⟨rfl, rfl⟩

section Chains

variable {trees : Grammar.Reader} {values : Reader} {node? : Grammar.Nodes}
  {operation? : Token → Option Operation}

/-- A chain that goes on from a tree agrees with one that goes on from its value, by induction on
the fuel. Where the value is an error, the evaluation is over while the tree is still read; the
error is then the value of every tree that the reading can come to.
-/
theorem chainFrom_agrees (operands : Readers trees values) (signs : Signs node? operation?)
    (fuel : Nat) (tree : Tree) (tokens : List Token)
    : Agrees (Grammar.chainFrom trees node? fuel tree (tokens.map Token.symbol))
        (tree.value >>= fun x => chainFrom values operation? fuel x tokens) := by
  induction fuel generalizing tree tokens with
  | zero => exact .value tree tokens
  | succ fuel ih =>
      cases tokens with
      | nil => exact .value tree []
      | cons token tokens =>
          rcases signs token with ⟨noNode, noOperation⟩ | ⟨node, apply, isNode, isOperation, same⟩
          · simp only [List.map_cons, Grammar.chainFrom, noNode, chainFrom, noOperation]
            exact .value tree (token :: tokens)
          · simp only [List.map_cons, Grammar.chainFrom, isNode, chainFrom, isOperation]
            have operand := operands tokens
            generalize trees (tokens.map Token.symbol) = found, values tokens = outcome at operand ⊢
            cases operand with
            | refused kind => exact .refused_after tree kind
            | value right rest =>
                have next := ih (node tree right) rest
                rw [same] at next
                cases evaluated : tree.value with
                | error fault => simpa [evaluated, bind, Except.bind] using next
                | ok x =>
                    cases evaluated' : right.value <;>
                      simpa [evaluated, evaluated', bind, Except.bind, Except.map] using next

theorem chain_agrees (operands : Readers trees values) (signs : Signs node? operation?)
    (fuel : Nat)
    : Readers (Grammar.chain trees node? fuel) (chain values operation? fuel) := by
  intro tokens
  exact (operands tokens).bind fun tree rest => chainFrom_agrees operands signs fuel tree rest

end Chains

theorem sum_agrees {trees : Grammar.Reader} {values : Reader} (factors : Readers trees values)
    (fuel : Nat)
    : Readers (Grammar.sum trees fuel) (sum values fuel) :=
  chain_agrees (chain_agrees factors product_signs fuel) sum_signs fuel

/-- A factor begins with a sign, a number or a parenthesis. -/
theorem factor_refused {fuel : Nat} {tokens : List Token}
    (noNumber : ∀ digits rest, tokens ≠ .number digits :: rest)
    (noSign : ∀ op rest, op ∈ [Operator.plus, .minus, .leftParen] → tokens ≠ .operator op :: rest)
    : Grammar.factor (fuel + 1) (tokens.map Token.symbol) = none := by
  unfold Grammar.factor
  split
  · next number =>
    obtain ⟨after, rfl, _⟩ := eq_cons_of_symbol number
    exact absurd rfl (noSign .plus after (by simp))
  · next sign =>
    obtain ⟨after, rfl, _⟩ := eq_cons_of_symbol sign
    exact absurd rfl (noSign .minus after (by simp))
  · next number =>
    obtain ⟨token, after, rfl, number, _⟩ := List.map_eq_cons_iff.mp number
    obtain ⟨digits, rfl⟩ := Token.eq_number_of_symbol number
    exact absurd rfl (noNumber digits after)
  · next sign =>
    obtain ⟨after, rfl, _⟩ := eq_cons_of_symbol sign
    exact absurd rfl (noSign .leftParen after (by simp))
  · rfl

/-- Factors agree, by induction on the fuel. -/
theorem factor_agrees (expression : List Token) (fuel : Nat)
    : Readers (Grammar.factor fuel) (factor expression fuel) := by
  induction fuel with
  | zero => exact fun _ => .refused rfl
  | succ fuel ih =>
      intro tokens
      unfold factor
      split
      · next rest =>
        rw [← bind_pure (factor expression fuel rest)]
        exact (ih rest).bind fun tree rest => .value (.plus tree) rest
      · next rest =>
        refine (ih rest).bind fun tree rest => ?_
        have negated := Agrees.value (.minus tree) rest
        cases evaluated : tree.value <;>
          simpa [Tree.value, evaluated, bind, Except.bind, Except.map] using negated
      · next digits rest =>
        cases readable : Decimal.read? digits with
        | some x =>
            simp only [List.map_cons, Token.symbol, readable, Grammar.factor]
            exact .value (.number x) rest
        | none =>
            simp only [List.map_cons, Token.symbol, readable, Grammar.factor]
            exact .refused rfl
      · next rest =>
        refine (sum_agrees ih fuel rest).bind fun tree rest => ?_
        by_cases closed : ∃ after, rest = .operator .rightParen :: after
        · obtain ⟨after, rfl⟩ := closed
          exact .value (.group tree) after
        · dsimp only
          split
          · next sign =>
            obtain ⟨after, rfl, _⟩ := eq_cons_of_symbol sign
            exact absurd ⟨after, rfl⟩ closed
          · split
            · exact absurd ⟨_, rfl⟩ closed
            · exact .refused_after tree rfl
      · next noPlus noMinus noNumber noParen =>
        rw [factor_refused noNumber ?_]
        · exact .refused rfl
        · intro op rest member
          simp only [List.mem_cons, List.not_mem_nil, or_false] at member
          rcases member with rfl | rfl | rfl
          · exact noPlus rest
          · exact noMinus rest
          · exact noParen rest

-----------------------------------------------------------------------------------------
-- Whole expressions
-----------------------------------------------------------------------------------------

/-- The tokens are an expression with this structure. -/
def Sentence (tokens : List Token) (tree : Tree) : Prop :=
  Derives .sum (tokens.map Token.symbol) tree

/-- A number, or one of the signs `+ - * / ( )`. -/
def Arithmetical (token : Token) : Prop :=
  (∃ digits, token = .number digits)
  ∨ ∃ op ∈ [Operator.plus, .minus, .times, .slash, .leftParen, .rightParen], token = .operator op

/-- Either the tokens are an expression and evaluate to the value of its tree, or they are none and
end in an arithmetic error.
-/
theorem evaluate_cases (tokens : List Token)
    : (∃ tree, Sentence tokens tree ∧ evaluate tokens = tree.value)
      ∨ (∀ tree, ¬ Sentence tokens tree)
        ∧ ∃ fault, evaluate tokens = .error fault ∧ fault.kind = .arithmetic := by
  have agrees := sum_agrees (factor_agrees tokens tokens.length) tokens.length tokens
  have parsed
      : ∀ tree, Grammar.parse? (tokens.map Token.symbol) = some tree ↔ Sentence tokens tree :=
    fun _ => Grammar.parse?_eq_some_iff
  unfold Grammar.parse? at parsed
  unfold evaluate
  rw [List.length_map] at parsed
  generalize Grammar.sum _ _ _ = found, sum _ _ _ = outcome at agrees parsed ⊢
  cases agrees with
  | refused kind =>
      refine .inr ⟨fun tree sentence => ?_, _, rfl, kind⟩
      cases (parsed tree).mpr sentence
  | value tree rest =>
      cases rest with
      | nil =>
          refine .inl ⟨tree, (parsed tree).mp rfl, ?_⟩
          cases tree.value <;> rfl
      | cons token rest =>
          refine .inr ⟨fun tree sentence => ?_, ?_⟩
          · cases (parsed tree).mpr sentence
          · cases evaluated : tree.value with
            | error fault => exact ⟨fault, rfl, value_safe tree fault evaluated⟩
            | ok x => exact ⟨_, rfl, rfl⟩

theorem evaluate_of_sentence {tokens : List Token} {tree : Tree} (sentence : Sentence tokens tree)
    : evaluate tokens = tree.value := by
  rcases evaluate_cases tokens with ⟨other, derived, evaluated⟩ | ⟨none, _⟩
  · rw [evaluated, derived.unique sentence]
  · exact absurd sentence (none tree)

theorem admits_iff {token : Token} : admits token = true ↔ Arithmetical token := by
  cases token with
  | operator op => cases op <;> simp [admits, Operator.isArithmetic, Arithmetical]
  | _ => simp [admits, Arithmetical]

theorem evaluate?_eq_some_iff {tokens : List Token} {outcome : Except Fault Float}
    : evaluate? tokens = some outcome
      ↔ (tokens ≠ [] ∧ ∀ token ∈ tokens, Arithmetical token) ∧ evaluate tokens = outcome := by
  simp only [evaluate?, Option.ite_none_right_eq_some, Option.some.injEq, Bool.and_eq_true,
    Bool.not_eq_true', List.isEmpty_eq_false_iff, List.all_eq_true, admits_iff]

/-- Only numbers and arithmetic signs stand in an expression. -/
theorem arithmetical_of_sentence {tokens : List Token} {tree : Tree}
    (sentence : Sentence tokens tree)
    : tokens ≠ [] ∧ ∀ token ∈ tokens, Arithmetical token := by
  obtain ⟨nonempty, terminals⟩ := Derives.terminals sentence
  refine ⟨fun empty => nonempty (by simp [empty]), ?_⟩
  intro token member
  have terminal := terminals token.symbol (List.mem_map_of_mem member)
  rw [← admits_iff]
  cases token with
  | number => rfl
  | operator op => exact terminal
  | _ => cases terminal

end Arithmetic

end Gosub
