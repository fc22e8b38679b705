import Gosub.Proofs.Environment.Memory
import Gosub.Proofs.Evaluation.Faults
import Gosub.Proofs.Evaluation.References
import Gosub.Proofs.Evaluation.Substitution
import Gosub.Proofs.Number.Naturals

/-! Overflow. An operation on two numbers has a finite result or fails. A run of digits beyond all
doubles is taken for infinity without such a check, so over finite stored numbers an expression is
infinite just where it is such a run with nothing but signs and parentheses around it. Every other
expression that is not finite by the operations of doubles, and divides nowhere by zero, fails with
an overflow.
-/

namespace Gosub

open Grammar (Symbol Tree Derives)
open Decimal (natOfDigits)

-----------------------------------------------------------------------------------------
-- Values of trees
-----------------------------------------------------------------------------------------

namespace Grammar.Tree

/-- The value of a tree by the operations of doubles alone, whatever they give. -/
def free : Tree → Float
  | number x => x
  | plus operand => operand.free
  | minus operand => -operand.free
  | group inner => inner.free
  | add left right => left.free + right.free
  | subtract left right => left.free - right.free
  | multiply left right => left.free * right.free
  | divide left right => left.free / right.free

/-- Whether some divisor is zero. -/
def dividesByZero : Tree → Bool
  | number _ => false
  | plus operand | minus operand | group operand => operand.dividesByZero
  | add left right | subtract left right | multiply left right =>
    left.dividesByZero || right.dividesByZero
  | divide left right => left.dividesByZero || right.dividesByZero || right.free == 0.0

/-- The number of a tree without operations on two numbers. -/
def lone? : Tree → Option Float
  | number x => some x
  | plus operand | minus operand | group operand => operand.lone?
  | add .. | subtract .. | multiply .. | divide .. => none

end Grammar.Tree

namespace Arithmetic

variable {x y z : Float} {fault : Fault}

theorem finite_eq_ok (checked : finite x = .ok z) : z = x ∧ z.isFinite = true := by
  unfold finite at checked
  split at checked
  · next given =>
    cases checked
    exact ⟨rfl, given⟩
  · cases checked

theorem finite_eq_error (failed : finite x = .error fault) : fault = .overflow := by
  unfold finite at failed
  split at failed
  · cases failed
  · exact (Except.error.inj failed).symm

theorem divide_eq_ok (divided : divide x y = .ok z) : z = x / y ∧ z.isFinite = true := by
  unfold divide at divided
  split at divided
  · cases divided
  · exact finite_eq_ok divided

theorem divide_eq_error (failed : divide x y = .error fault)
    : fault = .overflow ∨ fault = .divisionByZero ∧ (y == 0.0) = true := by
  unfold divide at failed
  split at failed
  · next zero => exact .inr ⟨(Except.error.inj failed).symm, zero⟩
  · exact .inl (finite_eq_error failed)

end Arithmetic

namespace Grammar.Tree

variable {tree : Tree} {x : Float} {fault : Fault}

/-- Where a tree has a value, it is the free one; and it is finite unless the tree has no operation
that checks it.
-/
theorem value_eq_ok (evaluated : tree.value = .ok x)
    : x = tree.free ∧ (x.isFinite = true ∨ ∃ y, tree.lone? = some y ∧ y.isFinite = false) := by
  induction tree generalizing x with
  | number y =>
      obtain rfl := Except.ok.inj evaluated
      cases given : y.isFinite with
      | true => exact ⟨rfl, .inl rfl⟩
      | false => exact ⟨rfl, .inr ⟨y, rfl, given⟩⟩
  | plus operand ih | group operand ih => exact ih evaluated
  | minus operand ih =>
      obtain ⟨y, inner, same⟩ := bind_eq_ok_iff.mp evaluated
      obtain rfl := Except.ok.inj same
      obtain ⟨rfl, finite⟩ := ih inner
      rw [Binary64.isFinite_neg]
      exact ⟨rfl, finite⟩
  | add left right ihLeft ihRight | subtract left right ihLeft ihRight
  | multiply left right ihLeft ihRight =>
      obtain ⟨y, first, evaluated⟩ := bind_eq_ok_iff.mp evaluated
      obtain ⟨z, second, applied⟩ := bind_eq_ok_iff.mp evaluated
      obtain ⟨rfl, -⟩ := ihLeft first
      obtain ⟨rfl, -⟩ := ihRight second
      obtain ⟨rfl, finite⟩ := Arithmetic.finite_eq_ok applied
      exact ⟨rfl, .inl finite⟩
  | divide left right ihLeft ihRight =>
      obtain ⟨y, first, evaluated⟩ := bind_eq_ok_iff.mp evaluated
      obtain ⟨z, second, applied⟩ := bind_eq_ok_iff.mp evaluated
      obtain ⟨rfl, -⟩ := ihLeft first
      obtain ⟨rfl, -⟩ := ihRight second
      obtain ⟨rfl, finite⟩ := Arithmetic.divide_eq_ok applied
      exact ⟨rfl, .inl finite⟩

/-- A tree without a value has a result out of range or a divisor that is zero. -/
theorem value_eq_error (failed : tree.value = .error fault)
    : fault = .overflow ∨ fault = .divisionByZero ∧ tree.dividesByZero = true := by
  induction tree with
  | number y => cases failed
  | plus operand ih | group operand ih => exact ih failed
  | minus operand ih =>
      rcases bind_eq_error_iff.mp failed with failed | ⟨y, -, failed⟩
      · exact ih failed
      · cases failed
  | add left right ihLeft ihRight | subtract left right ihLeft ihRight
  | multiply left right ihLeft ihRight =>
      rcases bind_eq_error_iff.mp failed with failed | ⟨y, -, failed⟩
      · exact (ihLeft failed).imp_right fun zero => ⟨zero.1, by simp [dividesByZero, zero.2]⟩
      · rcases bind_eq_error_iff.mp failed with failed | ⟨z, -, failed⟩
        · exact (ihRight failed).imp_right fun zero => ⟨zero.1, by simp [dividesByZero, zero.2]⟩
        · exact .inl (Arithmetic.finite_eq_error failed)
  | divide left right ihLeft ihRight =>
      rcases bind_eq_error_iff.mp failed with failed | ⟨y, -, failed⟩
      · exact (ihLeft failed).imp_right fun zero => ⟨zero.1, by simp [dividesByZero, zero.2]⟩
      · rcases bind_eq_error_iff.mp failed with failed | ⟨z, second, failed⟩
        · exact (ihRight failed).imp_right fun zero => ⟨zero.1, by simp [dividesByZero, zero.2]⟩
        · obtain ⟨rfl, -⟩ := value_eq_ok second
          exact (Arithmetic.divide_eq_error failed).imp_right fun zero =>
            ⟨zero.1, by rw [dividesByZero, zero.2, Bool.or_true]⟩

end Grammar.Tree

-----------------------------------------------------------------------------------------
-- Bare numbers
-----------------------------------------------------------------------------------------

/-- The tokens are one run of digits with signs before it and parentheses around it. -/
inductive Bare (digits : String) : List Token → Prop
  | number : Bare digits [.number digits]
  | plus {tokens : List Token} (operand : Bare digits tokens)
    : Bare digits (.operator .plus :: tokens)
  | minus {tokens : List Token} (operand : Bare digits tokens)
    : Bare digits (.operator .minus :: tokens)
  | group {tokens : List Token} (inner : Bare digits tokens)
    : Bare digits (.operator .leftParen :: tokens ++ [.operator .rightParen])

/-- An expression whose tree has no operation on two numbers is a bare number, by induction over the
productions.
-/
theorem bare_of_lone? {rank : Grammar.Rank} {symbols : List Symbol} {tree : Tree}
    (derived : Derives rank symbols tree) {tokens : List Token}
    (same : tokens.map Token.symbol = symbols) {y : Float} (lone : tree.lone? = some y)
    : ∃ digits, Bare digits tokens ∧ Decimal.read? digits = some y := by
  induction derived generalizing tokens with
  | add | subtract | multiply | divide => cases lone
  | product _ ih | factor _ ih => exact ih same lone
  | number x =>
      cases lone
      obtain ⟨token, rfl, symbol⟩ := List.map_eq_singleton_iff.mp same
      obtain ⟨digits, rfl⟩ := Token.eq_number_of_symbol symbol
      refine ⟨digits, .number, ?_⟩
      cases read : Decimal.read? digits with
      | none => simp [Token.symbol, read] at symbol
      | some x => simpa [Token.symbol, read] using symbol
  | plus _ ih =>
      obtain ⟨after, rfl, rest⟩ := Arithmetic.eq_cons_of_symbol same
      obtain ⟨digits, bare, read⟩ := ih rest lone
      exact ⟨digits, .plus bare, read⟩
  | minus _ ih =>
      obtain ⟨after, rfl, rest⟩ := Arithmetic.eq_cons_of_symbol same
      obtain ⟨digits, bare, read⟩ := ih rest lone
      exact ⟨digits, .minus bare, read⟩
  | group _ ih =>
      obtain ⟨after, rfl, rest⟩ := Arithmetic.eq_cons_of_symbol same
      obtain ⟨inner, last, rfl, inside, closing⟩ := List.map_eq_append_iff.mp rest
      obtain ⟨behind, rfl, none⟩ := Arithmetic.eq_cons_of_symbol closing
      obtain rfl := List.map_eq_nil_iff.mp none
      obtain ⟨digits, bare, read⟩ := ih inside lone
      exact ⟨digits, .group bare, read⟩

namespace Bare

variable {digits : String} {tokens : List Token}

/-- A bare number is an expression, and one beyond all doubles is infinite. -/
theorem exists_tree (bare : Bare digits tokens)
    (infinite : Decimal.read? digits = some (Binary64.infinity false))
    : ∃ tree negative, Derives .factor (tokens.map Token.symbol) tree
        ∧ tree.value = .ok (Binary64.infinity negative) := by
  induction bare with
  | number =>
      refine ⟨.number (Binary64.infinity false), false, ?_, rfl⟩
      simp only [List.map_singleton, Token.symbol, infinite]
      exact .number _
  | plus _ ih =>
      obtain ⟨tree, negative, derived, evaluated⟩ := ih
      exact ⟨.plus tree, negative, .plus derived, evaluated⟩
  | minus _ ih =>
      obtain ⟨tree, negative, derived, evaluated⟩ := ih
      refine ⟨.minus tree, !negative, .minus derived, ?_⟩
      have negated : -Binary64.infinity negative = Binary64.infinity (!negative) := by
        cases negative <;> decide +kernel
      rw [Tree.value, evaluated, ← negated]
      rfl
  | group _ ih =>
      obtain ⟨tree, negative, derived, evaluated⟩ := ih
      refine ⟨.group tree, negative, ?_, evaluated⟩
      rw [List.cons_append, List.map_cons, List.map_append]
      exact .group (.product (.factor derived))

theorem of_mem (bare : Bare digits tokens)
    : ∀ token ∈ tokens, token = .number digits ∨ ∃ op, token = .operator op := by
  induction bare with
  | number => simp
  | plus _ ih | minus _ ih => exact List.forall_mem_cons.mpr ⟨.inr ⟨_, rfl⟩, ih⟩
  | group _ ih =>
      have closing : ∀ token ∈ [Token.operator .rightParen],
          token = .number digits ∨ ∃ op, token = .operator op := by simp
      exact List.forall_mem_cons.mpr
        ⟨.inr ⟨_, rfl⟩, List.forall_mem_append.mpr ⟨ih, closing⟩⟩

theorem plain (bare : Bare digits tokens) : ∀ token ∈ tokens, token.isReference = false := by
  intro token member
  rcases bare.of_mem token member with rfl | ⟨op, rfl⟩ <;> rfl

theorem number_mem (bare : Bare digits tokens) : .number digits ∈ tokens := by
  induction bare with
  | number => exact List.mem_cons_self
  | plus _ ih | minus _ ih => exact List.mem_cons_of_mem _ ih
  | group _ ih => exact List.mem_cons_of_mem _ (List.mem_append_left _ ih)

end Bare

theorem Value.isFinite_plainNumber (x : Float) : (plainNumber x).isFinite = x.isFinite := by
  unfold plainNumber
  split
  · next zero =>
    rw [zero]
    decide +kernel
  · rfl

namespace Environment

-----------------------------------------------------------------------------------------
-- Finite memory
-----------------------------------------------------------------------------------------

/-- Every number that a variable or an array cell holds is finite. -/
structure StoresFinite (env : Environment) : Prop where
  values : ∀ (name : String) x, env.store.values[name]? = some (.number x) → x.isFinite = true
  cells : ∀ (name : String) table (key : String) x, env.store.arrays[name]? = some table
    → table.cells[key]? = some (.number x) → x.isFinite = true

variable {env : Environment} {name : String} {tokens done : List Token}

theorem StoresFinite.read {x : Float} (finite : env.StoresFinite)
    (read : env.read name = .ok (.number x)) : x.isFinite = true := by
  have fetched : env.fetch name = .ok (.number x) := by
    unfold Environment.read at read
    split at read
    · obtain ⟨-, -, fetched⟩ := bind_eq_ok_iff.mp read
      exact fetched
    · exact read
  exact finite.values _ x (Store.fetch_eq_ok.mp fetched)

theorem StoresFinite.fetchCell {x : Float} {indices : List Value} (finite : env.StoresFinite)
    (fetched : env.fetchCell name indices = .ok (.number x)) : x.isFinite = true := by
  obtain ⟨⟨table, key⟩, located, fetched⟩ := bind_eq_ok_iff.mp fetched
  dsimp only at fetched
  split at fetched
  · next value stored =>
    cases fetched
    exact finite.cells _ table key x (Store.array_of_locate located) stored
  · cases fetched

/-- Tokens are left as they are, or a stored value that is no infinite number is among them. -/
theorem Replaced.eq_or_stored (replaced : env.Replaced tokens done) (finite : env.StoresFinite)
    : tokens = done ∨ ∃ value, Token.ofValue value ∈ done
        ∧ ∀ x, value = .number x → x.isFinite = true := by
  induction replaced using outerInduction with
  | nil => exact .inl rfl
  | plain _ _ ih =>
      rcases ih with rfl | ⟨value, member, given⟩
      · exact .inl rfl
      · exact .inr ⟨value, List.mem_cons_of_mem _ member, given⟩
  | @name name value _ _ read _ _ =>
      refine .inr ⟨value, List.mem_cons_self, ?_⟩
      rintro x rfl
      exact finite.read read
  | @cell name _ indices value _ _ _ _ _ stored _ _ =>
      refine .inr ⟨value, List.mem_cons_self, ?_⟩
      rintro x rfl
      exact finite.fetchCell stored

-----------------------------------------------------------------------------------------
-- Overflow
-----------------------------------------------------------------------------------------

/-- An expression is a number where its references are replaced and a sentence of arithmetic is
left.
-/
theorem sentence_of_evaluate {x : Float} (evaluated : env.evaluate tokens = .ok (.number x))
    : ∃ done tree, env.Replaced tokens done ∧ Arithmetic.Sentence done tree
        ∧ tree.value = .ok x := by
  obtain ⟨done, substituted, calculated⟩ := bind_eq_ok_iff.mp evaluated
  unfold calculate at calculated
  split at calculated
  · next result given =>
    obtain ⟨y, rfl, same⟩ := map_eq_ok calculated
    cases same
    have succeeded := (Arithmetic.evaluate?_eq_some_iff.mp given).2
    rcases Arithmetic.evaluate_cases done with ⟨tree, sentence, value⟩ | ⟨-, fault, failed, -⟩
    · exact ⟨done, tree, substitute_eq_ok_iff.mp substituted, sentence,
        value.symm.trans succeeded⟩
    · rw [failed] at succeeded
      cases succeeded
  · obtain ⟨s, -, same⟩ := map_eq_ok calculated
    cases same

theorem evaluate_sentence {tree : Tree} (substituted : env.substitute tokens = .ok done)
    (sentence : Arithmetic.Sentence done tree)
    : env.evaluate tokens = tree.value.map .number :=
  have replaces : env.Replaces tokens (done.map Token.symbol) :=
    ⟨done, substituted, rfl, (Arithmetic.arithmetical_of_sentence sentence).2⟩
  replaces.evaluate_eq sentence

/-- A number that is not finite is that of a bare run of digits. What is left of the tokens after
substitution is such a run; and no stored number stands in it, as these are finite.
-/
theorem bare_of_evaluate {x : Float} (finite : env.StoresFinite)
    (evaluated : env.evaluate tokens = .ok (.number x)) (infinite : x.isFinite = false)
    : ∃ digits y, Bare digits tokens ∧ Decimal.read? digits = some y ∧ y.isFinite = false := by
  obtain ⟨done, tree, replaced, sentence, value⟩ := sentence_of_evaluate evaluated
  rcases (Tree.value_eq_ok value).2 with given | ⟨y, lone, unchecked⟩
  · rw [infinite] at given
    cases given
  · obtain ⟨digits, bare, read⟩ := bare_of_lone? sentence rfl lone
    rcases replaced.eq_or_stored finite with rfl | ⟨value, member, given⟩
    · exact ⟨digits, y, bare, read, unchecked⟩
    · rcases bare.of_mem _ member with same | ⟨op, same⟩
      · cases value with
        | number z =>
            cases same
            rw [Value.read?_printNumber] at read
            cases read
            rw [Value.isFinite_plainNumber, given z rfl] at unchecked
            cases unchecked
        | text s => cases same
      · cases value <;> cases same

/-- Overflow is reported, but for bare numbers. Over finite memory, a part of a line has a number
that is not finite just where it is a run of digits beyond all doubles, with nothing but signs and
parentheses around it; its value is infinite then. Any other expression that is not finite by the
operations of doubles, and divides nowhere by zero, fails with an overflow.
-/
theorem overflow_reported_unless_bare {cs : List Char} {line part : List Token}
    (finite : env.StoresFinite) (read : Lexer.tokens cs = .ok line) (inside : part <:+: line)
    : (∀ x, env.evaluate part = .ok (.number x) → x.isFinite = false →
          ∃ digits, Bare digits part ∧ Binary64.overflowBound ≤ natOfDigits digits.toList)
      ∧ (∀ digits, Bare digits part → Binary64.overflowBound ≤ natOfDigits digits.toList →
          ∃ negative, env.evaluate part = .ok (.number (Binary64.infinity negative)))
      ∧ ∀ done tree, env.substitute part = .ok done → Arithmetic.Sentence done tree →
          tree.free.isFinite = false → tree.dividesByZero = false → (∀ digits, ¬ Bare digits part) →
          env.evaluate part = .error .overflow := by
  have digitsRead {digits : String} (bare : Bare digits part)
      : Decimal.read? digits = some (Value.digitsValue digits.toList) :=
    (Lexer.cut_of_tokens read).read?_number (inside.mem bare.number_mem)
  refine ⟨?_, ?_, ?_⟩
  · intro x evaluated infinite
    obtain ⟨digits, y, bare, denoted, unchecked⟩ := bare_of_evaluate finite evaluated infinite
    refine ⟨digits, bare, ?_⟩
    rw [digitsRead bare] at denoted
    cases denoted
    rw [Value.digitsValue_eq, ← Bool.not_eq_true, Binary64.isFinite_ofRatio_nat] at unchecked
    exact not_lt.mp unchecked
  · intro digits bare beyond
    have denoted := digitsRead bare
    rw [Value.digitsValue_eq, Binary64.ofRatio_nat_of_overflow beyond] at denoted
    obtain ⟨tree, negative, derived, value⟩ := bare.exists_tree denoted
    refine ⟨negative, ?_⟩
    rw [evaluate_sentence (substitute_of_plain bare.plain) (.product (.factor derived)), value]
    rfl
  · intro done tree substituted sentence infinite nonzero composite
    have evaluated := evaluate_sentence substituted sentence
    cases value : tree.value with
    | ok x =>
        obtain ⟨rfl, -⟩ := Tree.value_eq_ok value
        rw [value] at evaluated
        obtain ⟨digits, -, bare, -⟩ := bare_of_evaluate finite evaluated infinite
        exact absurd bare (composite digits)
    | error fault =>
        rw [evaluated, value]
        rcases Tree.value_eq_error value with rfl | ⟨-, zero⟩
        · rfl
        · rw [nonzero] at zero
          cases zero

/-- A product of finite numbers that is out of range is reported. -/
theorem overflow_reported_unless_bare_product
    : let env : Environment :=
        { name := "main"
          store := { values := (∅ : Std.TreeMap String Value).insert "X" (.number 1e200) } }
      let tokens : List Token := [.name "X", .operator .times, .name "X"]
      env.StoresFinite ∧ Lexer.tokens "X*X".toList = .ok tokens
        ∧ env.evaluate tokens = .error .overflow := by
  intro env tokens
  have finite : env.StoresFinite := by
    refine ⟨fun name x stored => ?_, fun name table key x declared => ?_⟩
    · rw [Std.TreeMap.getElem?_insert] at stored
      split at stored
      · rw [← Value.number.inj (Option.some.inj stored)]
        decide +kernel
      · simp at stored
    · simp [env] at declared
  have read : Lexer.tokens "X*X".toList = .ok tokens := by
    have first : Lexer.lexeme 'X' "*X".toList = .ok (.name "X", "*X".toList) := by decide +kernel
    have second : Lexer.lexeme '*' "X".toList = .ok (.operator .times, "X".toList) := by
      decide +kernel
    have third : Lexer.lexeme 'X' [] = .ok (.name "X", []) := by decide +kernel
    rw [Lexer.tokens_of_lexeme (by rfl) first, if_neg (by decide),
      Lexer.tokens_of_lexeme (by rfl) second, if_neg (by decide),
      Lexer.tokens_of_lexeme (by rfl) third, if_neg (by decide), Lexer.tokens_of_blank rfl]
    rfl
  obtain ⟨-, -, reported⟩ := overflow_reported_unless_bare finite read (List.infix_refl tokens)
  refine ⟨finite, read, ?_⟩
  have stored : env.read "X" = .ok (.number 1e200) := by decide +kernel
  have substituted : env.substitute tokens
      = .ok [Token.ofValue (.number 1e200), .operator .times, Token.ofValue (.number 1e200)] := by
    rw [substitute_name, substitute_plain env rfl, substitute_name, substitute_nil, stored]
    rfl
  have sentence : Arithmetic.Sentence
      [Token.ofValue (.number 1e200), .operator .times, Token.ofValue (.number 1e200)]
      (.multiply (.number (Value.plainNumber 1e200)) (.number (Value.plainNumber 1e200))) := by
    simp only [Arithmetic.Sentence, List.map_cons, List.map_nil, symbol_ofValue]
    exact .product (.multiply (.factor (.number _)) (.number _))
  refine reported _ _ substituted sentence (by decide +kernel) rfl fun digits bare => ?_
  cases bare.plain (.name "X") List.mem_cons_self

/-- One and then 309 zeros are beyond all doubles. Alone they are taken for infinity, and only in an
operation is that an overflow.
-/
theorem bare_number_overflows
    : let env : Environment := { name := "main" }
      let digits := String.ofList ('1' :: List.replicate 309 '0')
      env.StoresFinite ∧ Lexer.tokens digits.toList = .ok [.number digits]
        ∧ env.evaluate [.number digits] = .ok (.number (Binary64.infinity false))
        ∧ (Binary64.infinity false).isFinite = false
        ∧ env.evaluate [.number digits, .operator .plus, .number "0"] = .error .overflow := by
  intro env digits
  have finite : env.StoresFinite := by
    refine ⟨fun name x stored => ?_, fun name table key x declared => ?_⟩
    · simp [env] at stored
    · simp [env] at declared
  have text : digits.toList = '1' :: List.replicate 309 '0' := String.toList_ofList
  clear_value digits
  have cut : Lexer.Cut digits.toList [.number digits] := by
    have filled : digits ≠ "" := by
      intro empty
      rw [empty] at text
      cases text
    have digit : ∀ c ∈ digits.toList, c.isDigit = true := by
      rw [text, List.forall_mem_cons]
      refine ⟨rfl, fun c member => ?_⟩
      rw [(List.mem_replicate.mp member).2]
      rfl
    have forced : Lexer.Forced [] (.number digits) :=
      .number filled digit (fun _ none => nomatch none) (fun _ none => nomatch none)
    have whole := Lexer.Cut.token (fun c (none : c ∈ []) => nomatch none) forced nofun
      (.done fun c (none : c ∈ []) => nomatch none)
    rwa [List.nil_append, List.append_nil] at whole
  have denoted : (Token.number digits).symbol = .number (Binary64.infinity false) := by
    have beyond : Binary64.overflowBound ≤ natOfDigits ('1' :: List.replicate 309 '0') := by
      decide +kernel
    rw [← text] at beyond
    have read := cut.read?_number List.mem_cons_self
    rw [Value.digitsValue_eq, Binary64.ofRatio_nat_of_overflow beyond] at read
    rw [Token.symbol, read]
  have zero : (Token.number "0").symbol = .number 0.0 := by decide +kernel
  refine ⟨finite, Lexer.tokens_of_cut cut, ?_, by decide +kernel, ?_⟩
  · have sentence : Arithmetic.Sentence [.number digits] (.number (Binary64.infinity false)) := by
      simp only [Arithmetic.Sentence, List.map_cons, List.map_nil, denoted]
      exact .product (.factor (.number _))
    rw [evaluate_sentence (substitute_of_plain (by simp [Token.isReference])) sentence]
    rfl
  · have sentence : Arithmetic.Sentence [.number digits, .operator .plus, .number "0"]
        (.add (.number (Binary64.infinity false)) (.number 0.0)) := by
      simp only [Arithmetic.Sentence, List.map_cons, List.map_nil, denoted, zero]
      exact .add (.product (.factor (.number _))) (.factor (.number _))
    rw [evaluate_sentence (substitute_of_plain (by simp [Token.isReference])) sentence]
    decide +kernel

end Environment

end Gosub
