import Gosub.Token.Basic

/-! The grammar of arithmetic. A sum is made of products and a product of factors, from left to
right; a factor is a number, a signed factor or a sum in parentheses. The trees of the grammar are
also read off by a function, so that no sequence of symbols has two of them.
-/

namespace Gosub.Grammar

-----------------------------------------------------------------------------------------
-- Productions
-----------------------------------------------------------------------------------------

/-- What an expression is written with. -/
inductive Symbol where
  | number (x : Float)
  | sign (op : Operator)
  /-- What can stand nowhere in an expression. -/
  | other
deriving DecidableEq, Repr

/-- An expression by its structure, with a node for every production that does not only pass from
one rank to the next.
-/
inductive Tree where
  | number (x : Float)
  | plus (operand : Tree)
  | minus (operand : Tree)
  | group (inner : Tree)
  | add (left right : Tree)
  | subtract (left right : Tree)
  | multiply (left right : Tree)
  | divide (left right : Tree)
deriving DecidableEq, Repr

/-- The ranks of expressions, from the one that binds least. -/
inductive Rank where
  | sum | product | factor
deriving DecidableEq, Repr

/-- The symbols are an expression of the rank, and the tree is its structure. -/
inductive Derives : Rank → List Symbol → Tree → Prop
  | add {s s' : List Symbol} {t t' : Tree} (left : Derives .sum s t)
    (right : Derives .product s' t')
    : Derives .sum (s ++ .sign .plus :: s') (.add t t')
  | subtract {s s' : List Symbol} {t t' : Tree} (left : Derives .sum s t)
    (right : Derives .product s' t')
    : Derives .sum (s ++ .sign .minus :: s') (.subtract t t')
  | product {s : List Symbol} {t : Tree} (whole : Derives .product s t) : Derives .sum s t
  | multiply {s s' : List Symbol} {t t' : Tree} (left : Derives .product s t)
    (right : Derives .factor s' t')
    : Derives .product (s ++ .sign .times :: s') (.multiply t t')
  | divide {s s' : List Symbol} {t t' : Tree} (left : Derives .product s t)
    (right : Derives .factor s' t')
    : Derives .product (s ++ .sign .slash :: s') (.divide t t')
  | factor {s : List Symbol} {t : Tree} (whole : Derives .factor s t) : Derives .product s t
  | number (x : Float) : Derives .factor [.number x] (.number x)
  | plus {s : List Symbol} {t : Tree} (operand : Derives .factor s t)
    : Derives .factor (.sign .plus :: s) (.plus t)
  | minus {s : List Symbol} {t : Tree} (operand : Derives .factor s t)
    : Derives .factor (.sign .minus :: s) (.minus t)
  | group {s : List Symbol} {t : Tree} (inner : Derives .sum s t)
    : Derives .factor (.sign .leftParen :: s ++ [.sign .rightParen]) (.group t)

/-- Whether a symbol stands in some expression. -/
def Symbol.isTerminal : Symbol → Bool
  | .number _ => true
  | .sign op => op.isArithmetic
  | .other => false

theorem Derives.terminals {rank : Rank} {symbols : List Symbol} {tree : Tree}
    (derived : Derives rank symbols tree)
    : symbols ≠ [] ∧ ∀ symbol ∈ symbols, symbol.isTerminal = true := by
  induction derived with
  | add _ _ left right | subtract _ _ left right | multiply _ _ left right
  | divide _ _ left right =>
      refine ⟨by simp, ?_⟩
      simp only [List.mem_append, List.mem_cons]
      rintro symbol (inLeft | rfl | inRight)
      · exact left.2 symbol inLeft
      · rfl
      · exact right.2 symbol inRight
  | product _ whole | factor _ whole => exact whole
  | number x => simp [Symbol.isTerminal]
  | plus _ operand | minus _ operand =>
      refine ⟨by simp, ?_⟩
      simp only [List.mem_cons]
      rintro symbol (rfl | inOperand)
      · rfl
      · exact operand.2 symbol inOperand
  | group _ inner =>
      refine ⟨by simp, ?_⟩
      simp only [List.cons_append, List.mem_cons, List.mem_append, List.not_mem_nil, or_false]
      rintro symbol (rfl | inside | rfl)
      · rfl
      · exact inner.2 symbol inside
      · rfl

-----------------------------------------------------------------------------------------
-- Reading trees
-----------------------------------------------------------------------------------------

/-- Reads a tree off the front of the symbols and returns the symbols after it. -/
abbrev Reader := List Symbol → Option (Tree × List Symbol)

/-- The nodes of one rank, by their signs. -/
abbrev Nodes := Symbol → Option (Tree → Tree → Tree)

/-- The node of a sum sign. -/
def sumNode? : Nodes
  | .sign .plus => some .add
  | .sign .minus => some .subtract
  | _ => none

/-- The node of a product sign. -/
def productNode? : Nodes
  | .sign .times => some .multiply
  | .sign .slash => some .divide
  | _ => none

/-- Goes on from the tree on the left for as long as a sign of the rank follows. -/
def chainFrom (operand : Reader) (node? : Nodes) : Nat → Tree → Reader
  | 0, tree, symbols => some (tree, symbols)
  | _ + 1, tree, [] => some (tree, [])
  | fuel + 1, tree, symbol :: symbols =>
    match node? symbol with
    | none => some (tree, symbol :: symbols)
    | some node => do
      let (right, rest) ← operand symbols
      chainFrom operand node? fuel (node tree right) rest

/-- Operands with signs of one rank between them. -/
def chain (operand : Reader) (node? : Nodes) (fuel : Nat) : Reader :=
  fun symbols => do
    let (tree, rest) ← operand symbols
    chainFrom operand node? fuel tree rest

/-- A sum of products of factors. -/
def sum (factor : Reader) (fuel : Nat) : Reader :=
  chain (chain factor productNode? fuel) sumNode? fuel

/-- A number, a signed factor, or a sum in parentheses. -/
def factor : Nat → Reader
  | 0, _ => none
  | fuel + 1, symbols =>
    match symbols with
    | .sign .plus :: rest => do
      let (tree, rest) ← factor fuel rest
      some (.plus tree, rest)
    | .sign .minus :: rest => do
      let (tree, rest) ← factor fuel rest
      some (.minus tree, rest)
    | .number x :: rest => some (.number x, rest)
    | .sign .leftParen :: rest => do
      let (tree, rest) ← sum (factor fuel) fuel rest
      match rest with
      | .sign .rightParen :: rest => some (.group tree, rest)
      | _ => none
    | _ => none

/-- The tree of a whole sequence of symbols, where it has one. -/
def parse? (symbols : List Symbol) : Option Tree := do
  let (tree, rest) ← sum (factor symbols.length) symbols.length symbols
  if rest.isEmpty then some tree else none

-----------------------------------------------------------------------------------------
-- Every tree is read
-----------------------------------------------------------------------------------------

/-- No sign of the rank comes next, so a chain of it ends here. -/
def EndsChain (node? : Nodes) (rest : List Symbol) : Prop :=
  ∀ symbol, rest.head? = some symbol → node? symbol = none

theorem chainFrom_of_endsChain {operand : Reader} {node? : Nodes} {rest : List Symbol}
    (ends : EndsChain node? rest) (fuel : Nat) (tree : Tree)
    : chainFrom operand node? fuel tree rest = some (tree, rest) := by
  cases fuel with
  | zero => rfl
  | succ fuel =>
      cases rest with
      | nil => rfl
      | cons symbol rest => simp only [chainFrom, ends symbol rfl]

/-- With this fuel, a chain over the symbols and what follows them has come to the tree and goes on
from there, with fuel left for every sign that is still to come.
-/
def Reaches (operand : Reader) (node? : Nodes) (fuel : Nat) (symbols : List Symbol) (tree : Tree)
    (rest : List Symbol) : Prop :=
  ∃ left, fuel ≤ left + symbols.length
    ∧ chain operand node? fuel (symbols ++ rest) = chainFrom operand node? left tree rest

namespace Reaches

variable {operand : Reader} {node? : Nodes} {fuel : Nat}
  {symbols symbols' rest : List Symbol} {tree tree' : Tree}

theorem first (read : operand (symbols ++ rest) = some (tree, rest))
    : Reaches operand node? fuel symbols tree rest := by
  refine ⟨fuel, Nat.le_add_right .., ?_⟩
  simp only [chain, read, Option.bind_eq_bind, Option.bind_some]

theorem next {symbol : Symbol} {node : Tree → Tree → Tree}
    (reached : Reaches operand node? fuel symbols tree (symbol :: (symbols' ++ rest)))
    (sign : node? symbol = some node) (read : operand (symbols' ++ rest) = some (tree', rest))
    (enough : (symbols ++ symbol :: symbols').length ≤ fuel)
    : Reaches operand node? fuel (symbols ++ symbol :: symbols') (node tree tree') rest := by
  obtain ⟨left, fueled, reached⟩ := reached
  simp only [List.length_append, List.length_cons] at enough
  obtain ⟨left, rfl⟩ : ∃ fewer, left = fewer + 1 := ⟨left - 1, by omega⟩
  refine ⟨left, by simp only [List.length_append, List.length_cons]; omega, ?_⟩
  simp only [List.append_assoc, List.cons_append, reached, chainFrom, sign, read,
    Option.bind_eq_bind, Option.bind_some]

theorem ended (reached : Reaches operand node? fuel symbols tree rest)
    (ends : EndsChain node? rest)
    : chain operand node? fuel (symbols ++ rest) = some (tree, rest) := by
  obtain ⟨left, _, reached⟩ := reached
  rw [reached, chainFrom_of_endsChain ends]

end Reaches

/-- Reading with this fuel takes the symbols for the tree, whatever follows them; only a product
sign after a sum would belong to the last product of it.
-/
def Taken (fuel : Nat) (symbols : List Symbol) (tree : Tree) : Rank → Prop
  | .factor => ∀ rest, factor fuel (symbols ++ rest) = some (tree, rest)
  | .product => ∀ rest, Reaches (factor fuel) productNode? fuel symbols tree rest
  | .sum =>
      ∀ rest, EndsChain productNode? rest
        → Reaches (chain (factor fuel) productNode? fuel) sumNode? fuel symbols tree rest

/-- Every expression is taken by the reader of its rank, by induction on its derivation. The chains
read from the left, as the productions do, so each operand is one more step of the same chain.
-/
theorem Derives.taken {rank : Rank} {symbols : List Symbol} {tree : Tree}
    (derived : Derives rank symbols tree)
    : ∀ fuel, symbols.length ≤ fuel → Taken fuel symbols tree rank := by
  induction derived with
  | @add s s' t t' _ _ left right =>
      intro fuel enough rest ends
      have parts : s.length ≤ fuel ∧ s'.length ≤ fuel := by simp at enough; omega
      refine (left fuel parts.1 _ ?_).next rfl ((right fuel parts.2 rest).ended ends) enough
      simp [EndsChain, productNode?]
  | @subtract s s' t t' _ _ left right =>
      intro fuel enough rest ends
      have parts : s.length ≤ fuel ∧ s'.length ≤ fuel := by simp at enough; omega
      refine (left fuel parts.1 _ ?_).next rfl ((right fuel parts.2 rest).ended ends) enough
      simp [EndsChain, productNode?]
  | product _ whole =>
      intro fuel enough rest ends
      exact .first ((whole fuel enough rest).ended ends)
  | @multiply s s' t t' _ _ left right =>
      intro fuel enough rest
      have parts : s.length ≤ fuel ∧ s'.length ≤ fuel := by simp at enough; omega
      exact (left fuel parts.1 _).next rfl (right fuel parts.2 rest) enough
  | @divide s s' t t' _ _ left right =>
      intro fuel enough rest
      have parts : s.length ≤ fuel ∧ s'.length ≤ fuel := by simp at enough; omega
      exact (left fuel parts.1 _).next rfl (right fuel parts.2 rest) enough
  | factor _ whole =>
      intro fuel enough rest
      exact .first (whole fuel enough rest)
  | number x =>
      intro fuel enough rest
      obtain ⟨fuel, rfl⟩ : ∃ fewer, fuel = fewer + 1 := ⟨fuel - 1, by simp at enough; omega⟩
      rfl
  | plus _ operand | minus _ operand =>
      intro fuel enough rest
      obtain ⟨fuel, rfl⟩ : ∃ fewer, fuel = fewer + 1 := ⟨fuel - 1, by simp at enough; omega⟩
      have read := operand fuel (by simpa using enough) rest
      simp [Grammar.factor, read]
  | @group s t _ inner =>
      intro fuel enough rest
      obtain ⟨fuel, rfl⟩ : ∃ fewer, fuel = fewer + 1 := ⟨fuel - 1, by simp at enough; omega⟩
      have reached := inner fuel (by simp at enough; omega) (.sign .rightParen :: rest)
        (by simp [EndsChain, productNode?])
      have read := reached.ended (by simp [EndsChain, sumNode?])
      simp only [Grammar.factor, sum, List.cons_append, List.append_assoc, List.nil_append, read,
        Option.bind_eq_bind, Option.bind_some]

-----------------------------------------------------------------------------------------
-- Only trees are read
-----------------------------------------------------------------------------------------

/-- The symbols that a reader takes for a tree are an expression of the rank with that tree. -/
def Sound (rank : Rank) (reader : Reader) : Prop :=
  ∀ {symbols rest : List Symbol} {tree : Tree}, reader symbols = some (tree, rest)
    → ∃ taken, symbols = taken ++ rest ∧ Derives rank taken tree

/-- A sign of the rank joins an expression of the rank and an operand. -/
def Joins (rank operandRank : Rank) (node? : Nodes) : Prop :=
  ∀ {symbol : Symbol} {node : Tree → Tree → Tree} {s s' : List Symbol} {t t' : Tree},
    node? symbol = some node → Derives rank s t → Derives operandRank s' t'
    → Derives rank (s ++ symbol :: s') (node t t')

section Chains

variable {rank operandRank : Rank} {operand : Reader} {node? : Nodes}

theorem chainFrom_sound (reads : Sound operandRank operand) (joins : Joins rank operandRank node?)
    {fuel : Nat} {before symbols rest : List Symbol} {left tree : Tree}
    (derived : Derives rank before left)
    (read : chainFrom operand node? fuel left symbols = some (tree, rest))
    : ∃ taken, symbols = taken ++ rest ∧ Derives rank (before ++ taken) tree := by
  induction fuel generalizing before symbols left with
  | zero =>
      cases read
      exact ⟨[], rfl, by simpa using derived⟩
  | succ fuel ih =>
      cases symbols with
      | nil =>
          cases read
          exact ⟨[], rfl, by simpa using derived⟩
      | cons symbol symbols =>
          simp only [chainFrom] at read
          split at read
          · cases read
            exact ⟨[], rfl, by simpa using derived⟩
          · next node sign =>
            simp only [Option.bind_eq_bind, Option.bind_eq_some_iff, Prod.exists] at read
            obtain ⟨right, after, operandRead, read⟩ := read
            obtain ⟨s, rfl, rightDerived⟩ := reads operandRead
            obtain ⟨more, rfl, whole⟩ := ih (joins sign derived rightDerived) read
            exact ⟨symbol :: (s ++ more), by simp, by simpa using whole⟩

theorem chain_sound (reads : Sound operandRank operand) (joins : Joins rank operandRank node?)
    (single : ∀ {s t}, Derives operandRank s t → Derives rank s t) (fuel : Nat)
    : Sound rank (chain operand node? fuel) := by
  intro symbols rest tree read
  simp only [chain, Option.bind_eq_bind, Option.bind_eq_some_iff, Prod.exists] at read
  obtain ⟨left, after, operandRead, read⟩ := read
  obtain ⟨s, rfl, derived⟩ := reads operandRead
  obtain ⟨more, rfl, whole⟩ := chainFrom_sound reads joins (single derived) read
  exact ⟨s ++ more, (List.append_assoc ..).symm, whole⟩

end Chains

theorem productNode?_joins : Joins .product .factor productNode? := by
  intro symbol node s s' t t' sign left right
  unfold productNode? at sign
  split at sign
  · cases sign
    exact left.multiply right
  · cases sign
    exact left.divide right
  · cases sign

theorem sumNode?_joins : Joins .sum .product sumNode? := by
  intro symbol node s s' t t' sign left right
  unfold sumNode? at sign
  split at sign
  · cases sign
    exact left.add right
  · cases sign
    exact left.subtract right
  · cases sign

theorem sum_sound {reader : Reader} (reads : Sound .factor reader) (fuel : Nat)
    : Sound .sum (sum reader fuel) :=
  chain_sound (chain_sound reads productNode?_joins .factor fuel) sumNode?_joins .product fuel

/-- What is taken for a factor is one, by induction on the fuel. -/
theorem factor_sound (fuel : Nat) : Sound .factor (factor fuel) := by
  induction fuel with
  | zero =>
      intro symbols rest tree read
      cases read
  | succ fuel ih =>
      intro symbols rest tree read
      unfold factor at read
      split at read
      · simp only [Option.bind_eq_bind, Option.bind_eq_some_iff, Prod.exists] at read
        obtain ⟨operand, after, operandRead, read⟩ := read
        cases read
        obtain ⟨taken, rfl, derived⟩ := ih operandRead
        exact ⟨_, rfl, derived.plus⟩
      · simp only [Option.bind_eq_bind, Option.bind_eq_some_iff, Prod.exists] at read
        obtain ⟨operand, after, operandRead, read⟩ := read
        cases read
        obtain ⟨taken, rfl, derived⟩ := ih operandRead
        exact ⟨_, rfl, derived.minus⟩
      · cases read
        exact ⟨_, rfl, .number _⟩
      · simp only [Option.bind_eq_bind, Option.bind_eq_some_iff, Prod.exists] at read
        obtain ⟨inner, after, innerRead, read⟩ := read
        split at read
        · cases read
          obtain ⟨taken, rfl, derived⟩ := sum_sound ih fuel innerRead
          exact ⟨.sign .leftParen :: taken ++ [.sign .rightParen], by simp, derived.group⟩
        · cases read
      · cases read

-----------------------------------------------------------------------------------------
-- Whole expressions
-----------------------------------------------------------------------------------------

/-- The reader finds exactly the trees of the grammar. -/
theorem parse?_eq_some_iff {symbols : List Symbol} {tree : Tree}
    : parse? symbols = some tree ↔ Derives .sum symbols tree := by
  constructor
  · intro parsed
    simp only [parse?, Option.bind_eq_bind, Option.bind_eq_some_iff, Prod.exists] at parsed
    obtain ⟨found, rest, read, parsed⟩ := parsed
    obtain ⟨taken, rfl, derived⟩ := sum_sound (factor_sound _) _ read
    split at parsed
    · next empty =>
      cases parsed
      simpa [List.isEmpty_iff.mp empty] using derived
    · cases parsed
  · intro derived
    have reached := derived.taken _ (Nat.le_refl _) [] (by simp [EndsChain])
    have read := reached.ended (by simp [EndsChain])
    rw [List.append_nil] at read
    simp [parse?, sum, read]

theorem Derives.unique {symbols : List Symbol} {tree tree' : Tree}
    (derived : Derives .sum symbols tree) (derived' : Derives .sum symbols tree')
    : tree = tree' := by
  have found := parse?_eq_some_iff.mpr derived
  rw [parse?_eq_some_iff.mpr derived'] at found
  exact (Option.some.inj found).symm

end Gosub.Grammar
