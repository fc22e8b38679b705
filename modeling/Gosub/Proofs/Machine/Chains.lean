import Gosub.Proofs.Machine.Conditionals

/-! Chains of conditionals. Where a conditional follows the `ELSE` of another, and so on, the line
is a chain of arms, and it has the outcome of the body of the first arm whose condition holds. Each
`ELSE` belongs to the outermost conditional that is still without one, so none belongs to a
conditional inside a body.
-/

namespace Gosub

/-- An arm of a chain. The body may be conditional again, as long as it has no `ELSE`. -/
structure Arm where
  condition : List Token
  body : List Token
  condition_ends : .keyword .THEN ∉ condition
  body_ends : .keyword .ELSE ∉ body

/-- The arm as it is written. -/
def Arm.tokens (arm : Arm) : List Token :=
  .keyword .IF :: arm.condition ++ .keyword .THEN :: arm.body

/-- One or more arms and the body for where no condition holds, which may be missing. -/
structure Chain where
  arms : List Arm
  otherwise : Option (List Token)
  arms_ne_nil : arms ≠ []

namespace Chain

/-- Arms and a last body as they are written, with `ELSE` between them. -/
def written (arms : List Arm) (otherwise : Option (List Token)) : List Token :=
  [.keyword .ELSE].intercalate (arms.map Arm.tokens ++ otherwise.toList)

/-- What is written after the `ELSE` of an arm, if it has one: the further arms and the last body.
-/
def remainder (arms : List Arm) (otherwise : Option (List Token)) : Option (List Token) :=
  if arms.isEmpty then otherwise else some (written arms otherwise)

/-- The first arm of a chain and what is left, as one conditional. -/
def conditional (arm : Arm) (arms : List Arm) (otherwise : Option (List Token)) : Conditional :=
  { arm with otherwise := remainder arms otherwise }

/-- The body of the first arm whose condition holds, or else the last body. -/
def firstBody (env : Environment) (arms : List Arm) (otherwise : Option (List Token))
    : Option (List Token) :=
  ((arms.find? fun arm => env.holds arm.condition).map Arm.body).or otherwise

/-- The chain as it is written. -/
def tokens (chain : Chain) : List Token :=
  written chain.arms chain.otherwise

/-- The body that is chosen in an environment. -/
def chosen (chain : Chain) (env : Environment) : Option (List Token) :=
  firstBody env chain.arms chain.otherwise

theorem written_cons (arm : Arm) (arms : List Arm) (otherwise : Option (List Token))
    : written (arm :: arms) otherwise = (conditional arm arms otherwise).tokens := by
  cases arms with
  | nil =>
      cases otherwise <;>
        simp [written, conditional, remainder, Conditional.tokens, Arm.tokens]
  | cons next rest =>
      simp [written, conditional, remainder, Conditional.tokens, Arm.tokens,
        List.intercalate_cons_cons]

/-- A chain is read as its first arm: the first `ELSE` is the one after it. -/
theorem ofTokens_written (arm : Arm) (arms : List Arm) (otherwise : Option (List Token))
    : Statement.ofTokens (written (arm :: arms) otherwise)
      = .branch arm.condition arm.body (remainder arms otherwise) := by
  rw [written_cons]
  exact (conditional arm arms otherwise).ofTokens_tokens

variable {env : Environment} {arm : Arm} {arms : List Arm} {otherwise : Option (List Token)}

theorem firstBody_of_holds (holds : env.holds arm.condition = true)
    : firstBody env (arm :: arms) otherwise = some arm.body := by
  simp [firstBody, holds]

theorem firstBody_of_fails (fails : ¬ env.holds arm.condition = true)
    : firstBody env (arm :: arms) otherwise = firstBody env arms otherwise := by
  simp [firstBody, fails]

/-- A chain comes down to the command of its first body, and to nothing where there is none. By
induction on the arms: what is left after an arm that does not hold is a chain again.
-/
theorem commandOf_written (env : Environment) (arm : Arm) (arms : List Arm)
    (otherwise : Option (List Token))
    : env.commandOf (written (arm :: arms) otherwise)
      = (firstBody env (arm :: arms) otherwise).elim .skip env.commandOf := by
  induction arms generalizing arm with
  | nil =>
      have read := ofTokens_written arm [] otherwise
      by_cases holds : env.holds arm.condition = true
      · rw [Environment.commandOf_chosen read (if_pos holds), firstBody_of_holds holds]
        rfl
      · have left : env.choose arm.condition arm.body (remainder [] otherwise) = otherwise :=
          if_neg holds
        rw [firstBody_of_fails holds]
        cases otherwise with
        | none => exact Environment.commandOf_unchosen read left
        | some last => exact Environment.commandOf_chosen read left
  | cons next rest ih =>
      have read := ofTokens_written arm (next :: rest) otherwise
      by_cases holds : env.holds arm.condition = true
      · rw [Environment.commandOf_chosen read (if_pos holds), firstBody_of_holds holds]
        rfl
      · have left
            : env.choose arm.condition arm.body (remainder (next :: rest) otherwise)
              = some (written (next :: rest) otherwise) :=
          if_neg holds
        rw [Environment.commandOf_chosen read left, ih next, firstBody_of_fails holds]

end Chain

namespace Interpreter

/-- A chain of conditionals has the outcome of the first body whose condition holds, for an
interpreter on the first environment of its name, at the top level or inside a conditional, and for
any number of arms. It is the same turn: the same request, and for every answer the same
environments, position and result. Where no condition holds it is that of the last body, and where
there is none either, the line only falls through. All conditions are those of the state before the
line. The first `ELSE` of the line closes the body of the first arm, whatever conditionals are
inside this body. Witness: the line comes down to the command of that body.
-/
theorem perform_chain {interpreter : Interpreter} {env : Environment}
    (grounded : interpreter.Grounded env) (number : Nat) (chain : Chain)
    : (∀ body,
        chain.chosen env = some body
        → interpreter.perform ⟨number, chain.tokens⟩ = interpreter.perform ⟨number, body⟩)
      ∧ (chain.chosen env = none
        → interpreter.perform ⟨number, chain.tokens⟩
          = .done (.running { interpreter with position := interpreter.position + 1 }))
      ∧ ∃ arm arms,
          chain.arms = arm :: arms
          ∧ Statement.ofTokens chain.tokens
            = .branch arm.condition arm.body (Chain.remainder arms chain.otherwise) := by
  obtain ⟨arms, otherwise, nonempty⟩ := chain
  obtain ⟨arm, arms, rfl⟩ := List.exists_cons_of_ne_nil nonempty
  have comesDown := Chain.commandOf_written env arm arms otherwise
  refine ⟨?_, ?_, arm, arms, rfl, Chain.ofTokens_written arm arms otherwise⟩
  · intro body chosen
    have first : Chain.firstBody env (arm :: arms) otherwise = some body := chosen
    rw [first] at comesDown
    rw [grounded.perform_eq, grounded.perform_eq]
    exact congrArg (fun command => (Command.run command _ env).map _) comesDown
  · intro unchosen
    have none : Chain.firstBody env (arm :: arms) otherwise = none := unchosen
    rw [none] at comesDown
    rw [grounded.perform_eq]
    change ((env.commandOf (Chain.written (arm :: arms) otherwise)).run _ env).map _ = _
    rw [comesDown]
    simp only [Option.elim, Command.run, Turn.map, settle, Outcome.next, follow,
      Roster.set_self grounded.found]

/-- Of four arms, in an inner interpreter, the second is the first to hold where `I` is 2, and the
third where it is 3. Both have a conditional as their body, and the `ELSE` behind it is not its own.
For 2 this conditional does not hold, and the line falls through. For 3 it asks for the value of
`J`, and for every reply the line leaves this value in the environment.
-/
theorem perform_chain_inner_asks_or_falls_through
    : let ask : List Token := [.keyword .INPUT, .quoted "N", .operator .semicolon, .name "J"]
      let nested : Conditional :=
        ⟨[.name "I", .relation .greater, .number "2"], ask, none, by decide, by decide⟩
      let chain : Chain :=
        ⟨[
          ⟨[.name "I", .relation .equal, .number "1"], nested.tokens, by decide, by decide⟩,
          ⟨[.name "I", .relation .equal, .number "2"], nested.tokens, by decide, by decide⟩,
          ⟨[.name "I", .relation .equal, .number "3"], nested.tokens, by decide, by decide⟩,
          ⟨[.name "I", .relation .less, .number "4"], [.keyword .END], by decide, by decide⟩],
          some [.keyword .GOTO, .number "20"], by decide⟩
      let values (i : Float) : Std.TreeMap String Value :=
        (∅ : Std.TreeMap String Value).insert "I" (.number i)
      let env (i : Float) : Environment := { name := "main", store := { values := values i } }
      let interpreter (i : Float) : Interpreter :=
        { program := .single 20 chain.tokens, roster := { environments := #[env i] }, id := 0,
          mode := .pro, origin := some 7 }
      let answered (reply : String) : Environment :=
        { env 3 with store.values := (values 3).insert "J" (Value.text reply).typed }
      ((interpreter 2).Grounded (env 2)
        ∧ chain.chosen (env 2) = some nested.tokens
        ∧ nested.chosen (env 2) = none
        ∧ (interpreter 2).perform ⟨20, chain.tokens⟩ = (interpreter 2).perform ⟨20, nested.tokens⟩
        ∧ (interpreter 2).perform ⟨20, chain.tokens⟩
          = .done (.running { interpreter 2 with position := 1 }))
      ∧ (interpreter 3).Grounded (env 3)
      ∧ chain.chosen (env 3) = some nested.tokens
      ∧ nested.chosen (env 3) = some ask
      ∧ (interpreter 3).perform ⟨20, chain.tokens⟩ = (interpreter 3).perform ⟨20, nested.tokens⟩
      ∧ (interpreter 3).perform ⟨20, chain.tokens⟩
        = .ask (.input "N") fun reply =>
            .running
              { interpreter 3 with
                  roster := { environments := #[answered reply] }, position := 1 } := by
  intro ask nested chain values env interpreter answered
  have grounded2 : (interpreter 2).Grounded (env 2) := ⟨rfl, by decide +kernel⟩
  have chosen2 : chain.chosen (env 2) = some nested.tokens := by decide +kernel
  have fails : nested.chosen (env 2) = none := by decide +kernel
  have same2 := (perform_chain grounded2 20 chain).1 _ chosen2
  have skipped : (env 2).commandOf nested.tokens = .skip :=
    Environment.commandOf_unchosen nested.ofTokens_tokens fails
  have grounded3 : (interpreter 3).Grounded (env 3) := ⟨rfl, by decide +kernel⟩
  have chosen3 : chain.chosen (env 3) = some nested.tokens := by decide +kernel
  have holds : nested.chosen (env 3) = some ask := by decide +kernel
  have same3 := (perform_chain grounded3 20 chain).1 _ chosen3
  have asked : (env 3).commandOf nested.tokens = .input [.quoted "N"] "J" := by
    rw [Environment.commandOf_chosen nested.ofTokens_tokens holds]
    exact Environment.commandOf_command rfl
  have prompt : (env 3).evaluate [.quoted "N"] = .ok (.text "N") :=
    eq_ok_of_toOption (by decide +kernel)
  have assigned (reply : String)
      : (env 3).assign "J" (.text reply) = .ok (answered reply) := by
    have unscoped : (env 3).qualify "J" = "J" := by decide +kernel
    have room
        : ¬ (!(env 3).store.values.contains "J"
              && decide (maxVariables ≤ (env 3).store.values.size)) = true := by
      decide +kernel
    rw [Environment.assign, Store.assign, unscoped, if_neg room]
    rfl
  refine ⟨⟨grounded2, chosen2, fails, same2, ?_⟩, grounded3, chosen3, holds, same3, ?_⟩
  · rw [same2, grounded2.perform_eq, skipped]
    rfl
  · rw [same3, grounded3.perform_eq, asked, Command.run, prompt]
    refine congrArg (Turn.ask (.input "N")) (funext fun reply => ?_)
    exact congrArg (fun changed => settle _ _ (Outcome.ofChange (env 3) changed)) (assigned reply)

end Interpreter

end Gosub
