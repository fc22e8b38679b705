import Gosub.Evaluation.Expression
import Gosub.Proofs.Evaluation.Arithmetic
import Gosub.Proofs.Number.ReadBack

/-! Expressions over stored numbers. Every name and every array cell is put in its place as the
text of its number and read again from there; the outcome is that of the expression with the number
itself in that place.
-/

namespace Gosub

open Grammar (Symbol Tree Derives)
open Arithmetic (Arithmetical)

namespace Environment

-----------------------------------------------------------------------------------------
-- What names stand for
-----------------------------------------------------------------------------------------

mutual

/-- The tokens are numbers, arithmetic signs, names of numbers and cells that hold numbers; the
symbols are the same with the stored numbers in the place of the names and cells.
-/
inductive Reads (env : Environment) : List Token → List Symbol → Prop
  | nil : Reads env [] []
  | plain {token : Token} {tokens : List Token} {symbols : List Symbol}
    (arithmetical : Arithmetical token) (more : Reads env tokens symbols)
    : Reads env (token :: tokens) (token.symbol :: symbols)
  | name {name : String} {x : Float} {tokens : List Token} {symbols : List Symbol}
    (single : env.store.arrays.contains (env.qualify name) = false)
    (stored : env.fetch name = .ok (.number x)) (more : Reads env tokens symbols)
    : Reads env (.name name :: tokens) (.number (Value.plainNumber x) :: symbols)
  | cell {name : String} {x : Float} {after rest : List Token} {groups : List (List Token)}
    {indices : List Value} {symbols : List Symbol}
    (formed : Indices.split after = .ok (groups, rest)) (indexed : ReadsIndices env groups indices)
    (stored : env.fetchCell name indices = .ok (.number x)) (more : Reads env rest symbols)
    : Reads env (.indexed name :: after) (.number (Value.plainNumber x) :: symbols)

/-- The index groups evaluate to these indices: an arithmetic one to the value of its tree, and one
of another kind to the text that it joins to.
-/
inductive ReadsIndices (env : Environment) : List (List Token) → List Value → Prop
  | nil : ReadsIndices env [] []
  | number {group : List Token} {symbols : List Symbol} {tree : Tree} {x : Float}
    {groups : List (List Token)} {indices : List Value} (read : Reads env group symbols)
    (derived : Derives .sum symbols tree) (value : tree.value = .ok x)
    (more : ReadsIndices env groups indices)
    : ReadsIndices env (group :: groups) (.number x :: indices)
  | text {group : List Token} {s : String} {groups : List (List Token)} {indices : List Value}
    (joined : env.evaluate group = .ok (.text s)) (more : ReadsIndices env groups indices)
    : ReadsIndices env (group :: groups) (.text s :: indices)

end

-----------------------------------------------------------------------------------------
-- Substitution
-----------------------------------------------------------------------------------------

variable {env : Environment}

theorem read_of_fetch {name : String} {value : Value}
    (single : env.store.arrays.contains (env.qualify name) = false)
    (stored : env.fetch name = .ok value)
    : env.read name = .ok value := by
  simp [read, single, stored]

/-- The indices of a cell are evaluated like any other expression. -/
theorem substitute_indexed {name : String} {after rest done : List Token}
    {groups : List (List Token)} {indices : List Value} {value : Value}
    (formed : Indices.split after = .ok (groups, rest))
    (indexed : env.evaluateAll groups = .ok indices)
    (stored : env.fetchCell name indices = .ok value) (more : env.substitute rest = .ok done)
    : env.substitute (.indexed name :: after) = .ok (Token.ofValue value :: done) := by
  rw [substitute]
  split
  · next failed =>
    rw [formed] at failed
    cases failed
  · next groups' rest' divided =>
    rw [formed] at divided
    cases divided
    have evaluated : groups.attach.mapM (fun group => env.evaluate group.val) = .ok indices := by
      rw [List.mapM_subtype (g := env.evaluate) fun _ _ => rfl, List.unattach_attach]
      exact indexed
    simp only [evaluate] at evaluated
    simp only [evaluated]
    simp only [stored, more, bind, Except.bind]

/-- Substitution leaves numbers and arithmetic signs that are these symbols. -/
def Replaces (env : Environment) (tokens : List Token) (symbols : List Symbol) : Prop :=
  ∃ done, env.substitute tokens = .ok done ∧ done.map Token.symbol = symbols
    ∧ ∀ token ∈ done, Arithmetical token

theorem symbol_ofValue (x : Float)
    : (Token.ofValue (.number x)).symbol = .number (Value.plainNumber x) := by
  simp only [Token.ofValue, Token.symbol, Value.read?_printNumber]

/-- The outcome of an expression whose names are replaced is that of its symbols. -/
theorem Replaces.evaluate_eq {tokens : List Token} {symbols : List Symbol} {tree : Tree}
    (replaced : env.Replaces tokens symbols) (derived : Derives .sum symbols tree)
    : env.evaluate tokens = tree.value.map .number := by
  obtain ⟨done, substituted, rfl, _⟩ := replaced
  have given := Arithmetic.arithmetical_of_sentence derived
  have value := Arithmetic.evaluate_of_sentence derived
  simp only [evaluate, substituted, bind, Except.bind, calculate,
    Arithmetic.evaluate?_eq_some_iff.mpr ⟨given, value⟩]

theorem Replaces.evaluate_fails {tokens : List Token} {symbols : List Symbol}
    (replaced : env.Replaces tokens symbols) (filled : symbols ≠ [])
    (underived : ∀ tree, ¬ Derives .sum symbols tree)
    : ∃ fault, env.evaluate tokens = .error fault ∧ fault.kind = .arithmetic := by
  obtain ⟨done, substituted, rfl, arithmetical⟩ := replaced
  have nonempty : done ≠ [] := by
    intro empty
    simp [empty] at filled
  rcases Arithmetic.evaluate_cases done with ⟨tree, sentence, _⟩ | ⟨_, fault, failed, kind⟩
  · exact absurd sentence (underived tree)
  · refine ⟨fault, ?_, kind⟩
    have given := Arithmetic.evaluate?_eq_some_iff.mpr ⟨⟨nonempty, arithmetical⟩, failed⟩
    simp only [evaluate, substituted, bind, Except.bind, calculate, given, Except.map]

theorem Replaces.cons {before token : Token} {tokens tokens' : List Token} {symbols : List Symbol}
    (replaced : env.Replaces tokens symbols) (arithmetical : Arithmetical token)
    (next : ∀ done, env.substitute tokens = .ok done
      → env.substitute (before :: tokens') = .ok (token :: done))
    : env.Replaces (before :: tokens') (token.symbol :: symbols) := by
  obtain ⟨done, substituted, rfl, more⟩ := replaced
  exact ⟨token :: done, next done substituted, rfl, List.forall_mem_cons.mpr ⟨arithmetical, more⟩⟩

/-- The indices are evaluated where every shorter expression is. -/
theorem ReadsIndices.evaluateAll_eq {groups : List (List Token)} {indices : List Value}
    (read : env.ReadsIndices groups indices)
    (replaces : ∀ group ∈ groups, ∀ {symbols}, env.Reads group symbols → env.Replaces group symbols)
    : env.evaluateAll groups = .ok indices := by
  induction groups generalizing indices with
  | nil =>
      cases read
      rfl
  | cons group groups ih =>
      rw [List.forall_mem_cons] at replaces
      cases read with
      | number read derived value more =>
          have evaluated := (replaces.1 read).evaluate_eq derived
          have rest := ih more replaces.2
          simp only [value, Except.map] at evaluated
          simp only [evaluateAll] at rest
          simp [evaluateAll, List.mapM_cons, evaluated, rest, bind, Except.bind, pure, Except.pure]
      | text joined more =>
          have rest := ih more replaces.2
          simp only [evaluateAll] at rest
          simp [evaluateAll, List.mapM_cons, joined, rest, bind, Except.bind, pure, Except.pure]

/-- Every name is replaced by its number, by induction on the length: the index groups of a cell
and what follows them are shorter than the whole.
-/
theorem Reads.replaces {tokens : List Token} {symbols : List Symbol}
    (reads : env.Reads tokens symbols)
    : env.Replaces tokens symbols := by
  induction length : tokens.length using Nat.strongRecOn generalizing tokens symbols with
  | ind n ih =>
      subst length
      cases reads with
      | nil => exact ⟨[], by rw [substitute], rfl, by simp⟩
      | @plain token tokens symbols arithmetical more =>
          refine (ih _ (by simp) more rfl).cons arithmetical ?_
          intro done substituted
          rcases arithmetical with ⟨digits, rfl⟩ | ⟨op, _, rfl⟩ <;>
            simp [substitute, substituted, bind, Except.bind]
      | @name name x tokens symbols single stored more =>
          rw [← symbol_ofValue]
          refine (ih _ (by simp) more rfl).cons (.inl ⟨_, rfl⟩) ?_
          intro done substituted
          simp [substitute, read_of_fetch single stored, substituted, bind, Except.bind]
      | @cell name x after rest groups indices symbols formed indexed stored more =>
          obtain ⟨shorter, shorterRest⟩ := Indices.length_lt_of_split formed
          have evaluated : env.evaluateAll groups = .ok indices := by
            refine indexed.evaluateAll_eq fun group member symbols read => ?_
            exact ih _ (by have := shorter group member; simp; omega) read rfl
          rw [← symbol_ofValue]
          refine (ih _ (by simp; omega) more rfl).cons (.inl ⟨_, rfl⟩) ?_
          intro done substituted
          exact substitute_indexed formed evaluated stored substituted

/-- Evaluating with numbers put in as text is the same as evaluating over the stored numbers: an
expression has the value of its tree, with the number itself in the place of a name or a cell, and
what is no expression is an arithmetic error. Only where there is nothing at all, the value is the
empty text.
-/
theorem evaluate_over_stored {tokens : List Token} {symbols : List Symbol}
    (reads : env.Reads tokens symbols)
    : (∀ tree, Derives .sum symbols tree → env.evaluate tokens = tree.value.map .number)
      ∧ (tokens ≠ [] → (∀ tree, ¬ Derives .sum symbols tree) →
          ∃ fault, env.evaluate tokens = .error fault ∧ fault.kind = .arithmetic)
      ∧ (tokens = [] → env.evaluate tokens = .ok (.text "")) := by
  refine ⟨fun tree => reads.replaces.evaluate_eq, fun filled => ?_, ?_⟩
  · refine reads.replaces.evaluate_fails ?_
    cases reads with
    | nil => exact absurd rfl filled
    | _ => simp
  · rintro rfl
    have nothing : env.substitute [] = .ok [] := by rw [substitute]
    rw [evaluate, nothing]
    rfl

/-- A negative number, a fraction and a nested index keep their places in `2 - X * A[A[1] + 1]`. -/
theorem evaluate_over_stored_nested_cell
    : let cells : Std.TreeMap String Value :=
        ((∅ : Std.TreeMap String Value).insert "1" (.number 1.0)).insert "2" (.number 0.1)
      let env : Environment :=
        { name := "main"
          store :=
            { values := (∅ : Std.TreeMap String Value).insert "X" (.number (-3.5))
              arrays := (∅ : Std.TreeMap String Table).insert "A" ⟨1, cells⟩ } }
      let index : List Token :=
        [.indexed "A", .operator .leftBracket, .number "1", .operator .rightBracket,
          .operator .plus, .number "1"]
      let tokens : List Token :=
        [.number "2", .operator .minus, .name "X", .operator .times, .indexed "A",
          .operator .leftBracket] ++ index ++ [.operator .rightBracket]
      env.Reads tokens
          [.number 2.0, .sign .minus, .number (-3.5), .sign .times, .number 0.1]
        ∧ env.evaluate tokens = .ok (.number 2.35) := by
  intro cells env index tokens
  have one : Token.symbol (.number "1") = .number 1.0 := by decide +kernel
  have two : Token.symbol (.number "2") = .number 2.0 := by decide +kernel
  have plainOne : Value.plainNumber 1.0 = 1.0 := by decide +kernel
  have plainX : Value.plainNumber (-3.5) = -3.5 := by decide +kernel
  have plainCell : Value.plainNumber 0.1 = 0.1 := by decide +kernel
  have literal : env.Reads [.number "1"] [.number 1.0] := by
    rw [← one]
    exact .plain (.inl ⟨_, rfl⟩) .nil
  have inner : env.Reads index [.number 1.0, .sign .plus, .number 1.0] := by
    have formed : Indices.split (index.drop 1)
        = .ok ([[.number "1"]], [.operator .plus, .number "1"]) := by
      simp [index, Indices.split, Indices.close?, Indices.opening, Indices.closing]
    have cell : env.fetchCell "A" [.number 1.0] = .ok (.number 1.0) := by decide +kernel
    have whole := Reads.cell formed (.number literal (.product (.factor (.number _))) rfl .nil) cell
      (.plain (.inr ⟨.plus, by simp, rfl⟩) literal)
    rwa [plainOne] at whole
  have reads : env.Reads tokens
      [.number 2.0, .sign .minus, .number (-3.5), .sign .times, .number 0.1] := by
    have formed : Indices.split (tokens.drop 5) = .ok ([index], []) := by
      simp [tokens, index, Indices.split, Indices.close?, Indices.opening, Indices.closing]
    have cell : env.fetchCell "A" [.number 2.0] = .ok (.number 0.1) := by decide +kernel
    have stored : env.fetch "X" = .ok (.number (-3.5)) := by decide +kernel
    have sum
        : Derives .sum [.number 1.0, .sign .plus, .number 1.0]
            (.add (.number 1.0) (.number 1.0)) :=
      .add (.product (.factor (.number _))) (.factor (.number _))
    have last := Reads.cell formed (.number inner sum (by decide +kernel) .nil) cell .nil
    have product :=
      Reads.name (by decide +kernel) stored (.plain (.inr ⟨.times, by simp, rfl⟩) last)
    have whole := @Reads.plain env (.number "2") _ _ (.inl ⟨_, rfl⟩)
      (.plain (.inr ⟨.minus, by simp, rfl⟩) product)
    rwa [two, plainX, plainCell] at whole
  have derived
      : Derives .sum [.number 2.0, .sign .minus, .number (-3.5), .sign .times, .number 0.1]
          (.subtract (.number 2.0) (.multiply (.number (-3.5)) (.number 0.1))) :=
    .subtract (.product (.factor (.number _))) (.multiply (.factor (.number _)) (.number _))
  refine ⟨reads, ?_⟩
  rw [(evaluate_over_stored reads).1 _ derived]
  decide +kernel

end Environment

end Gosub
