import Gosub.Proofs.Environment.Memory
import Gosub.Proofs.Evaluation.Comparison
import Gosub.Proofs.Evaluation.Expressions
import Gosub.Proofs.Evaluation.Substitution
import Gosub.Proofs.Number.Naturals
import Gosub.Proofs.Statement.Writes
import Gosub.Statement.Execution

/-! Computed jumps. A value is taken for a line number by its shape: a text of digits by what the
digits denote, a number by what the double stands for. So a jump to a text goes where a jump to a
variable with this text goes, although the text is read digit by digit and the variable holds a
double.
-/

namespace Gosub

namespace Value

-----------------------------------------------------------------------------------------
-- The line number of a value
-----------------------------------------------------------------------------------------

/-- The value, typed by its shape, is a number, and this number is a line number. -/
def Names (value : Value) (n : Nat) : Prop :=
  ∃ x, value.typed = .number x ∧ Binary64.Denotes x n ∧ n < lineNumberBound

theorem lt_of_lt_lineNumberBound {n : Nat} (bound : n < lineNumberBound)
    : n < 2 * Binary64.hiddenBit := by
  simp only [lineNumberBound, Binary64.hiddenBit] at *
  omega

/-- A text names what its digits denote. Digits that denote a number in range do so exactly, and
all others denote a number out of range.
-/
theorem names_text_iff {s : String} {n : Nat}
    : (text s).Names n
      ↔ Decimal.isDigits s.toList = true ∧ Decimal.natOfDigits s.toList = n
        ∧ n < lineNumberBound := by
  simp only [Names, typed, ofShape]
  split
  · next digits =>
    simp only [number.injEq, exists_eq_left', digitsValue_eq, digits, true_and]
    refine and_congr_left fun bound => ?_
    exact Binary64.denotes_ofRatio_nat_iff (lt_of_lt_lineNumberBound bound)
  · next other => simp [other]

/-- A number names what it stands for, where that is a line number. -/
theorem names_number_iff {x : Float} {n : Nat}
    : (number x).Names n ↔ Binary64.whole? x = some (n : ℤ) ∧ n < lineNumberBound := by
  simp only [Names, typed, number.injEq, exists_eq_left', Binary64.whole?_eq_some_iff,
    Int.cast_natCast]

/-- A jump takes a value for the line number that it names. -/
theorem lineTarget_eq_ok_iff {value : Value} {n : Nat}
    : value.lineTarget = .ok n ↔ value.Names n := by
  cases value with
  | number x =>
      rw [names_number_iff]
      cases whole : Binary64.whole? x with
      | none => simp [lineTarget, whole]
      | some k =>
          simp only [lineTarget, whole, Option.bind_some, Option.some.injEq]
          by_cases range : 0 ≤ k ∧ k < lineNumberBound
          · rw [if_pos range]
            simp only [Except.ok.injEq]
            omega
          · rw [if_neg range]
            simp only [reduceCtorEq, false_iff]
            omega
  | text s =>
      rw [names_text_iff]
      by_cases digits : Decimal.isDigits s.toList = true
      · by_cases range : Decimal.natOfDigits s.toList < lineNumberBound
        · simp only [lineTarget, lineNumber?, if_pos digits, if_pos range, Except.ok.injEq]
          grind
        · simp only [lineTarget, lineNumber?, if_pos digits, if_neg range, reduceCtorEq]
          grind
      · simp [lineTarget, lineNumber?, digits]

/-- A jump to a value that names no line number is refused with the text of the value. -/
theorem lineTarget_of_not_names {value : Value} (nameless : ∀ n, ¬ value.Names n)
    : value.lineTarget = .error (.undefinedLine value.printed) := by
  cases target : value.lineTarget with
  | ok n => exact absurd (lineTarget_eq_ok_iff.mp target) (nameless n)
  | error fault =>
      simp only [lineTarget] at target
      split at target
      · cases target
      · exact target.symm

-----------------------------------------------------------------------------------------
-- Stored values
-----------------------------------------------------------------------------------------

/-- The value that an expression reads off a variable: a zero has lost its sign. -/
def plain : Value → Value
  | number x => number (plainNumber x)
  | text s => text s

theorem denotes_plainNumber (x : Float) (r : ℚ)
    : Binary64.Denotes (plainNumber x) r ↔ Binary64.Denotes x r := by
  unfold plainNumber
  split
  · next zero =>
    have negative : Binary64.view (-0.0) = .finite true 0 Binary64.minExponent := by decide +kernel
    have positive : Binary64.view 0.0 = .finite false 0 Binary64.minExponent := by decide +kernel
    simp [Binary64.Denotes, zero, negative, positive]
  · rfl

theorem typed_typed (value : Value) : value.typed.typed = value.typed := by
  cases value with
  | number x => rfl
  | text s => by_cases digits : Decimal.isDigits s.toList = true <;> simp [typed, ofShape, digits]

/-- Storing a value and reading it back keeps what it names. -/
theorem names_plain_typed (value : Value) (n : Nat)
    : value.typed.plain.Names n ↔ value.Names n := by
  unfold Names
  cases shape : value.typed with
  | number x => simp [plain, typed, denotes_plainNumber]
  | text s =>
    have kept : (text s).typed = text s := by rw [← shape, typed_typed]
    simp [plain, kept]

theorem printed_plain (value : Value) : value.plain.printed = value.printed := by
  cases value with
  | number x => exact printNumber_plainNumber x
  | text s => rfl

end Value

theorem calculate_ofValue (value : Value) : calculate [Token.ofValue value] = .ok value.plain := by
  cases value with
  | number x =>
      have sentence
          : Arithmetic.Sentence [Token.ofValue (.number x)] (.number (Value.plainNumber x)) := by
        rw [Arithmetic.Sentence, List.map_singleton, Environment.symbol_ofValue]
        exact .product (.factor (.number _))
      rw [calculate, Arithmetic.evaluate?_eq_some_iff.mpr
        ⟨Arithmetic.arithmetical_of_sentence sentence, Arithmetic.evaluate_of_sentence sentence⟩]
      rfl
  | text s => rfl

namespace Environment

variable {env : Environment}

theorem evaluate_name {name : String} {value : Value} (stored : env.fetch name = .ok value)
    (single : env.store.arrays.contains (env.qualify name) = false)
    : env.evaluate [.name name] = .ok value.plain := by
  have substituted : env.substitute [.name name] = .ok [Token.ofValue value] := by
    rw [substitute_name, read_of_fetch single stored, substitute_nil]
    rfl
  rw [evaluate, substituted]
  exact calculate_ofValue value

-----------------------------------------------------------------------------------------
-- Jumps
-----------------------------------------------------------------------------------------

/-- Both jumps to an expression go to the line with this number; without one, both are refused with
this text and change nothing.
-/
def Aims (env : Environment) (expression : List Token) (text : String) (target : Option Nat)
    : Prop :=
  ∀ position,
    (Command.goto expression).run position env
      = .done (target.elim (.fail env (.undefinedLine text))
          fun n => { env, transfer := .ok (.jump n) })
    ∧ (Command.gosub expression).run position env
      = .done (target.elim (.fail env (.undefinedLine text)) (env.enterSubroutine position))

/-- Jumps follow what the value of their expression names. -/
theorem aims_of_evaluate {expression : List Token} {value : Value} {target : Option Nat}
    (evaluated : env.evaluate expression = .ok value)
    (named : ∀ n, target = some n ↔ value.Names n)
    : env.Aims expression value.printed target := by
  have aim : env.lineTarget expression = value.lineTarget := by
    rw [lineTarget, evaluated]
    rfl
  intro position
  cases target with
  | none =>
      have refused := Value.lineTarget_of_not_names fun n names => nomatch (named n).mpr names
      simp only [Command.run, aim, refused]
      exact ⟨rfl, rfl⟩
  | some n =>
      have reached := Value.lineTarget_eq_ok_iff.mpr ((named n).mp rfl)
      simp only [Command.run, aim, reached]
      exact ⟨rfl, rfl⟩

/-- A jump to a value goes where a jump to a variable with this value goes. Both go to the line that
the value names, typed by its shape, or are refused where it names none; and a text names a line
just where it is made of digits that denote a number in range.
-/
theorem jump_eq_jump_to_variable {expression : List Token} {value : Value}
    (evaluated : env.evaluate expression = .ok value)
    : ∃ target : Option Nat,
        (∀ n, target = some n ↔ value.Names n)
        ∧ (∀ s, value = .text s → ∀ n, target = some n
            ↔ Decimal.isDigits s.toList = true ∧ Decimal.natOfDigits s.toList = n
              ∧ n < lineNumberBound)
        ∧ env.Aims expression value.printed target
        ∧ ∀ name env', env.assign name value = .ok env'
            → env.store.arrays.contains (env.qualify name) = false
            → env'.Aims [.name name] value.typed.printed target := by
  obtain ⟨target, named⟩ : ∃ target : Option Nat, ∀ n, target = some n ↔ value.Names n := by
    refine ⟨value.lineTarget.toOption, fun n => ?_⟩
    rw [← Value.lineTarget_eq_ok_iff]
    cases value.lineTarget <;> simp [Except.toOption]
  refine ⟨target, named, ?_, aims_of_evaluate evaluated named, ?_⟩
  · rintro s rfl n
    rw [named, Value.names_text_iff]
  · intro name env' assigned single
    have kept : env'.store.arrays.contains (env'.qualify name) = false := by
      obtain ⟨store, stored, rfl⟩ := assign_eq_ok assigned
      rw [Store.assign_eq_ok stored]
      exact single
    have read := evaluate_name (fetch_of_assign assigned) kept
    rw [← value.typed.printed_plain]
    exact aims_of_evaluate read fun n => by rw [named, Value.names_plain_typed]

/-- Zeros before the digits make no difference, on either way. -/
theorem jump_eq_jump_to_variable_leading_zeros
    : let env : Environment := { name := "MAIN" }
      ∃ env', env.evaluate [.quoted "0042"] = .ok (.text "0042")
        ∧ env.assign "A" (.text "0042") = .ok env'
        ∧ env.store.arrays.contains (env.qualify "A") = false
        ∧ env.Aims [.quoted "0042"] "0042" (some 42)
        ∧ env'.Aims [.name "A"] "42" (some 42) := by
  intro env
  have evaluated : env.evaluate [.quoted "0042"] = .ok (.text "0042") := by
    rw [evaluate, substitute_plain env rfl, substitute_nil]
    rfl
  have single : env.store.arrays.contains (env.qualify "A") = false :=
    Std.TreeMap.contains_emptyc
  obtain ⟨target, -, digits, direct, stored⟩ := jump_eq_jump_to_variable evaluated
  obtain rfl : target = some 42 := (digits "0042" rfl 42).mpr (by decide +kernel)
  have printed : (Value.text "0042").typed.printed = "42" := by decide +kernel
  refine ⟨_, evaluated, rfl, single, direct, ?_⟩
  rw [← printed]
  exact stored "A" _ rfl single

end Environment

end Gosub
