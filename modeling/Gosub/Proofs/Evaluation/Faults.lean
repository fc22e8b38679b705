import Gosub.Proofs.Evaluation.Brackets
import Gosub.Proofs.Evaluation.Expressions
import Gosub.Proofs.Number.ReadBack
import Gosub.Proofs.Token.Cuts

/-! The faults of expressions. On the tokens of a line, and on every part of a line that does not
tear an array name from its bracket, an expression fails for a few causes only: every number that
evaluation comes upon can be read, and every array name has its indices.
-/

namespace Gosub

-----------------------------------------------------------------------------------------
-- Computations that fail for allowed causes
-----------------------------------------------------------------------------------------

/-- The computation has a result with the property, or fails for an allowed cause. -/
def Meets {α : Type} (allowed : Fault → Prop) (post : α → Prop) : Except Fault α → Prop
  | .ok result => post result
  | .error fault => allowed fault

section Meets

variable {α β : Type} {allowed : Fault → Prop} {post : α → Prop}

/-- A sequence of two computations fails only where one of them does. -/
theorem Meets.bind {first : Except Fault α} {next : α → Except Fault β} {post' : β → Prop}
    (meets : Meets allowed post first)
    (later : ∀ result, post result → Meets allowed post' (next result))
    : Meets allowed post' (first >>= next) := by
  cases first with
  | error fault => exact meets
  | ok result => exact later result meets

theorem Meets.map {outcome : Except Fault α} {f : α → β} {post' : β → Prop}
    (meets : Meets allowed post outcome) (implies : ∀ result, post result → post' (f result))
    : Meets allowed post' (outcome.map f) := by
  cases outcome with
  | error fault => exact meets
  | ok result => exact implies result meets

theorem Meets.of_error {outcome : Except Fault α} {fault : Fault}
    (meets : Meets allowed post outcome) (failed : outcome = .error fault)
    : allowed fault := by
  rw [failed] at meets
  exact meets

/-- Several computations one after another, each of which fails only for allowed causes. -/
theorem Meets.mapM {inputs : List β} {f : β → Except Fault α}
    (meets : ∀ input ∈ inputs, Meets allowed (fun _ => True) (f input))
    : Meets allowed (fun _ => True) (inputs.mapM f) := by
  induction inputs with
  | nil => trivial
  | cons input inputs ih =>
      rw [List.forall_mem_cons] at meets
      rw [List.mapM_cons]
      exact meets.1.bind fun _ _ => (ih meets.2).bind fun _ _ => trivial

end Meets

/-- The causes for which an expression can fail. -/
inductive Fault.OfExpression : Fault → Prop
  | undeclaredVariable (name : String) : OfExpression (.undeclaredVariable name)
  | undeclaredCell (name key : String) : OfExpression (.undeclaredCell name key)
  | undeclaredArray (name : String) : OfExpression (.undeclaredArray name)
  | tooManyIndices : OfExpression .tooManyIndices
  | tooFewIndices : OfExpression .tooFewIndices
  | missingBracket : OfExpression .missingBracket
  | emptyIndex : OfExpression .emptyIndex
  | divisionByZero : OfExpression .divisionByZero
  | overflow : OfExpression .overflow
  | malformedExpression (tokens : List Token) : OfExpression (.malformedExpression tokens)
  | malformedJoin (tokens : List Token) : OfExpression (.malformedJoin tokens)

-----------------------------------------------------------------------------------------
-- Arithmetic and joining
-----------------------------------------------------------------------------------------

/-- Every number among the tokens can be read. -/
def Readable (tokens : List Token) : Prop :=
  ∀ digits, .number digits ∈ tokens → (Decimal.read? digits).isSome = true

theorem Readable.mono {tokens tokens' : List Token} (readable : Readable tokens)
    (inside : ∀ token ∈ tokens', token ∈ tokens)
    : Readable tokens' :=
  fun digits member => readable digits (inside _ member)

theorem Readable.tail {token : Token} {tokens : List Token} (readable : Readable (token :: tokens))
    : Readable tokens :=
  readable.mono fun _ => List.mem_cons_of_mem token

/-- The text of a value is readable where it stands for a number. -/
theorem Readable.cons_ofValue {tokens : List Token} (readable : Readable tokens) (value : Value)
    : Readable (Token.ofValue value :: tokens) := by
  intro digits member
  rcases List.mem_cons.mp member with same | later
  · cases value with
    | number x =>
        cases same
        rw [Value.read?_printNumber]
        rfl
    | text s => cases same
  · exact readable digits later

namespace Arithmetic

variable {allowed : Fault → Prop} (basic : ∀ fault, fault.OfExpression → allowed fault)
include basic

/-- The reader fails only for allowed causes, and leaves readable tokens behind. -/
def Admissible (allowed : Fault → Prop) (reader : Reader) : Prop :=
  ∀ tokens, Readable tokens → Meets allowed (fun result => Readable result.2) (reader tokens)

theorem finite_meets (x : Float) : Meets allowed (fun _ => True) (finite x) := by
  unfold finite
  split
  · trivial
  · exact basic _ .overflow

/-- The operations fail only for allowed causes. -/
def Harmless (allowed : Fault → Prop) (operation? : Token → Option Operation) : Prop :=
  ∀ token operation, operation? token = some operation
    → ∀ x y, Meets allowed (fun _ => True) (operation x y)

theorem sumOperation?_harmless : Harmless allowed sumOperation? := by
  intro token operation found x y
  unfold sumOperation? at found
  split at found <;> cases found <;> exact finite_meets basic _

theorem productOperation?_harmless : Harmless allowed productOperation? := by
  intro token operation found x y
  unfold productOperation? at found
  split at found <;> cases found
  · exact finite_meets basic _
  · unfold divide
    split
    · exact basic _ .divisionByZero
    · exact finite_meets basic _

omit basic in
/-- Going on from an operand is admissible, by induction on the fuel. -/
theorem chainFrom_admissible {operand : Reader} {operation? : Token → Option Operation}
    (admissible : Admissible allowed operand) (harmless : Harmless allowed operation?)
    (fuel : Nat) (x : Float)
    : Admissible allowed (chainFrom operand operation? fuel x) := by
  induction fuel generalizing x with
  | zero => exact fun tokens readable => readable
  | succ fuel ih =>
      intro tokens readable
      cases tokens with
      | nil => exact readable
      | cons token tokens =>
          rw [chainFrom]
          split
          · exact readable
          · next operation found =>
            refine (admissible tokens readable.tail).bind fun result left => ?_
            exact (harmless token operation found _ _).bind fun z _ => ih z result.2 left

omit basic in
theorem chain_admissible {operand : Reader} {operation? : Token → Option Operation}
    (admissible : Admissible allowed operand) (harmless : Harmless allowed operation?)
    (fuel : Nat)
    : Admissible allowed (chain operand operation? fuel) :=
  fun tokens readable => (admissible tokens readable).bind fun result left =>
    chainFrom_admissible admissible harmless fuel result.1 result.2 left

theorem sum_admissible {factor : Reader} (admissible : Admissible allowed factor) (fuel : Nat)
    : Admissible allowed (sum factor fuel) :=
  chain_admissible
    (chain_admissible admissible (productOperation?_harmless basic) fuel)
    (sumOperation?_harmless basic) fuel

/-- Factors are admissible, by induction on the fuel. -/
theorem factor_admissible (expression : List Token) (fuel : Nat)
    : Admissible allowed (factor expression fuel) := by
  induction fuel with
  | zero => exact fun tokens _ => basic _ (.malformedExpression expression)
  | succ fuel ih =>
      intro tokens readable
      unfold factor
      split
      · exact ih _ readable.tail
      · exact (ih _ readable.tail).bind fun result left => left
      · next digits rest =>
        obtain ⟨x, read⟩ := Option.isSome_iff_exists.mp (readable digits List.mem_cons_self)
        rw [read]
        exact readable.tail
      · refine (sum_admissible basic ih fuel _ readable.tail).bind fun result left => ?_
        dsimp only
        split
        · next closed =>
          rw [closed] at left
          exact left.tail
        · exact basic _ (.malformedExpression expression)
      · exact basic _ (.malformedExpression expression)

theorem evaluate_meets {tokens : List Token} (readable : Readable tokens)
    : Meets allowed (fun _ => True) (evaluate tokens) := by
  have factors := factor_admissible basic tokens tokens.length
  refine (sum_admissible basic factors tokens.length tokens readable).bind fun result _ => ?_
  dsimp only
  split
  · trivial
  · exact basic _ (.malformedExpression tokens)

end Arithmetic

theorem Joining.evaluate_meets {allowed : Fault → Prop}
    (basic : ∀ fault, fault.OfExpression → allowed fault) (tokens : List Token)
    : Meets allowed (fun _ => True) (evaluate tokens) := by
  unfold evaluate
  split
  · trivial
  · split
    · trivial
    · exact basic _ (.malformedJoin _)

theorem calculate_meets {allowed : Fault → Prop}
    (basic : ∀ fault, fault.OfExpression → allowed fault) {tokens : List Token}
    (readable : Readable tokens)
    : Meets allowed (fun _ => True) (calculate tokens) := by
  unfold calculate Arithmetic.evaluate?
  split
  · next result given =>
    split at given <;> cases given
    exact (Arithmetic.evaluate_meets basic readable).map fun _ _ => trivial
  · exact (Joining.evaluate_meets basic tokens).map fun _ _ => trivial

-----------------------------------------------------------------------------------------
-- Index groups
-----------------------------------------------------------------------------------------

/-- Every array name stands right before an opening bracket. -/
def Bracketed (tokens : List Token) : Prop :=
  ∀ before name after, tokens = before ++ .indexed name :: after
    → ∃ rest, after = Indices.opening :: rest

namespace Bracketed

theorem of_append {before after : List Token} (bracketed : Bracketed (before ++ after))
    : Bracketed after := by
  rintro front name rest rfl
  exact bracketed (before ++ front) name rest (by rw [List.append_assoc])

/-- What stands before another token than an opening bracket keeps its brackets. -/
theorem before_mark {before after : List Token} {mark : Token}
    (bracketed : Bracketed (before ++ mark :: after)) (other : mark ≠ Indices.opening)
    : Bracketed before := by
  rintro front name rest rfl
  obtain ⟨tail, opened⟩ := bracketed front name (rest ++ mark :: after) (by simp)
  cases rest with
  | nil => exact absurd (List.cons.inj opened).1 other
  | cons token rest => exact ⟨rest, by rw [(List.cons.inj opened).1]⟩

theorem tail {token : Token} {tokens : List Token} (bracketed : Bracketed (token :: tokens))
    : Bracketed tokens := by
  rw [← List.singleton_append] at bracketed
  exact bracketed.of_append

end Bracketed

namespace Indices

/-- The groups stand before closing brackets, and what follows them ends the tokens. -/
theorem parts_of_split {tokens rest : List Token} {groups : List (List Token)}
    (done : split tokens = .ok (groups, rest))
    : (∀ group ∈ groups, ∃ before after, tokens = before ++ (group ++ closing :: after))
      ∧ ∃ before, tokens = before ++ rest := by
  obtain ⟨rfl, -, -, -⟩ := split_eq_ok_iff.mp done
  refine ⟨fun group member => ?_, written groups, rfl⟩
  obtain ⟨front, behind, rfl⟩ := List.append_of_mem member
  refine ⟨written front ++ [opening], written behind ++ rest, ?_⟩
  simp [written]

/-- Only where there is no opening bracket at the front, one is missed. -/
theorem split_meets {allowed : Fault → Prop} (basic : ∀ fault, fault.OfExpression → allowed fault)
    {tokens : List Token}
    (opened : allowed .expectedBracket ∨ ∃ rest, tokens = opening :: rest)
    : Meets allowed (fun _ => True) (split tokens) := by
  rcases split_cases tokens with ⟨groups, rest, found, -⟩ | ⟨fault, failed, malformed⟩
  · rw [found]
    trivial
  · rw [failed]
    cases malformed with
    | unopened start =>
        rcases opened with missed | ⟨rest, rfl⟩
        · exact missed
        · exact absurd rfl start
    | unclosed => exact basic _ .missingBracket
    | empty => exact basic _ .emptyIndex

end Indices

-----------------------------------------------------------------------------------------
-- Substitution and evaluation
-----------------------------------------------------------------------------------------

namespace Environment

variable {allowed : Fault → Prop} (basic : ∀ fault, fault.OfExpression → allowed fault)
  (env : Environment)
include basic

theorem fetch_meets (name : String) : Meets allowed (fun _ => True) (env.fetch name) := by
  unfold fetch Store.fetch
  split
  · trivial
  · exact basic _ (.undeclaredVariable _)

theorem locate_meets (name : String) (indices : List Value)
    : Meets allowed (fun _ => True) (env.store.locate name indices) := by
  have located : Meets allowed (fun _ => True) (env.store.array name) := by
    unfold Store.array
    split
    · trivial
    · exact basic _ (.undeclaredArray _)
  refine located.bind fun table _ => ?_
  split
  · exact basic _ .tooManyIndices
  · split
    · exact basic _ .tooFewIndices
    · trivial

theorem fetchCell_meets (name : String) (indices : List Value)
    : Meets allowed (fun _ => True) (env.fetchCell name indices) := by
  refine (locate_meets basic env _ indices).bind fun result _ => ?_
  dsimp only
  split
  · trivial
  · exact basic _ (.undeclaredCell _ _)

theorem read_meets (name : String) : Meets allowed (fun _ => True) (env.read name) := by
  unfold read
  split
  · exact (fetchCell_meets basic env name []).bind fun _ _ => fetch_meets basic env name
  · exact fetch_meets basic env name

/-- Substitution leaves numbers that can be read, by induction along the tokens. -/
theorem substitute_meets {tokens : List Token} (readable : Readable tokens)
    (opened : allowed .expectedBracket ∨ Bracketed tokens)
    : Meets allowed Readable (env.substitute tokens) := by
  induction tokens using substitutionInduction with
  | nil =>
      rw [substitute_nil]
      exact readable
  | name name rest ih =>
      rw [substitute_name]
      refine (read_meets basic env name).bind fun value _ => ?_
      refine (ih readable.tail (opened.imp_right Bracketed.tail)).bind fun done left => ?_
      exact left.cons_ofValue value
  | cell name rest ih =>
      rw [substitute_cell]
      have bracket : allowed .expectedBracket ∨ ∃ after, rest = Indices.opening :: after :=
        opened.imp_right fun bracketed => bracketed [] name rest rfl
      cases divided : Indices.split rest with
      | error fault => exact (Indices.split_meets basic bracket).of_error divided
      | ok found =>
          obtain ⟨groups, after⟩ := found
          obtain ⟨inside, behind⟩ := ih groups after divided
          obtain ⟨parts, front, ended⟩ := Indices.parts_of_split divided
          have evaluated : Meets allowed (fun _ => True) (env.evaluateAll groups) := by
            refine Meets.mapM fun group member => ?_
            obtain ⟨before, later, text⟩ := parts group member
            refine (inside group member ?_ ?_).bind fun done left => calculate_meets basic left
            · exact readable.tail.mono fun token inGroup => by simp [text, inGroup]
            · refine opened.imp_right fun bracketed => ?_
              have rest := bracketed.tail
              rw [text] at rest
              exact rest.of_append.before_mark (by decide)
          refine evaluated.bind fun indices _ => ?_
          refine (fetchCell_meets basic env name indices).bind fun value _ => ?_
          refine (behind ?_ ?_).bind fun done left => left.cons_ofValue value
          · exact readable.tail.mono fun token inAfter => by simp [ended, inAfter]
          · refine opened.imp_right fun bracketed => ?_
            have rest := bracketed.tail
            rw [ended] at rest
            exact rest.of_append
  | plain token rest plain ih =>
      rw [substitute_plain _ plain]
      refine (ih readable.tail (opened.imp_right Bracketed.tail)).map fun done left => ?_
      intro digits member
      rcases List.mem_cons.mp member with rfl | later
      · exact readable digits List.mem_cons_self
      · exact left digits later

theorem evaluate_meets {tokens : List Token} (readable : Readable tokens)
    (opened : allowed .expectedBracket ∨ Bracketed tokens)
    : Meets allowed (fun _ => True) (env.evaluate tokens) :=
  (substitute_meets basic env readable opened).bind fun _ left => calculate_meets basic left

end Environment

-----------------------------------------------------------------------------------------
-- Parts of lines
-----------------------------------------------------------------------------------------

namespace Lexer

/-- The numbers of a line are runs of digits, and each is read as what the digits denote. -/
theorem Cut.read?_number {cs : List Char} {ts : List Token} (cut : Cut cs ts) {digits : String}
    (member : .number digits ∈ ts)
    : Decimal.read? digits = some (Value.digitsValue digits.toList) := by
  obtain ⟨rest, forced⟩ := cut.forced_of_mem member
  cases forced with
  | number nonempty digit =>
      have filled : digits.toList ≠ [] := fun empty =>
        nonempty (String.toList_eq_nil_iff.mp empty)
      have read := Decimal.read?_whole false filled digit
      rwa [if_neg Bool.false_ne_true, String.ofList_toList] at read

theorem Cut.readable {cs : List Char} {ts : List Token} (cut : Cut cs ts) : Readable ts := by
  intro digits member
  rw [cut.read?_number member]
  rfl

/-- After an opening bracket nothing else is read first. -/
theorem Cut.eq_opening_cons {cs : List Char} {ts : List Token} (cut : Cut ('[' :: cs) ts)
    : ∃ later, ts = Indices.opening :: later := by
  have skipped : ('[' :: cs).dropWhile isGap = '[' :: cs := rfl
  have lexed : lexeme '[' cs = .ok (Indices.opening, cs) := rfl
  have read := tokens_of_cut cut
  rw [tokens_of_lexeme skipped lexed, if_neg (by decide)] at read
  cases result : tokens cs with
  | error fault =>
      rw [result] at read
      cases read
  | ok later =>
      rw [result] at read
      exact ⟨later, (Except.ok.inj read).symm⟩

/-- An array name is read only right before an opening bracket, by induction along the cuts. -/
theorem Cut.bracketed {cs : List Char} {ts : List Token} (cut : Cut cs ts) : Bracketed ts := by
  induction cut with
  | done =>
      intro before name after whole
      simp at whole
  | remark =>
      intro before name after whole
      cases before with
      | nil => cases whole
      | cons token before => simp at whole
  | @token gap rest first later blank forced ordinary more ih =>
      intro before name after whole
      cases before with
      | nil =>
          obtain ⟨rfl, rfl⟩ := List.cons.inj whole
          cases forced with
          | indexed word bracket =>
              cases rest with
              | nil => cases bracket
              | cons c rest =>
                  obtain rfl := Option.some.inj bracket
                  exact more.eq_opening_cons
      | cons token before => exact ih before name after (List.cons.inj whole).2

end Lexer

/-- The kinds of errors that an expression can end with. -/
def Kind.ofExpression : List Kind :=
  [.undeclaredVariable, .undeclaredArray, .arrayArity, .arrayForm, .arithmetic, .joining]

/-- On any part of a line an expression fails for one of the causes of expressions, and where the
part tears an array name from its bracket also because the bracket is missed.
-/
theorem Environment.fault_of_evaluate {cs : List Char} {tokens : List Token}
    (cut : Lexer.Cut cs tokens) {part : List Token} (inside : part <:+: tokens)
    (env : Environment) {fault : Fault} (failed : env.evaluate part = .error fault)
    : fault.OfExpression ∨ fault = .expectedBracket := by
  have readable : Readable part := cut.readable.mono fun token member => inside.mem member
  have meets
      : Meets (fun fault => fault.OfExpression ∨ fault = .expectedBracket) (fun _ => True)
          (env.evaluate part) :=
    evaluate_meets (fun _ => Or.inl) env readable (.inl (.inr rfl))
  exact meets.of_error failed

theorem Fault.OfExpression.kind_mem {fault : Fault} (ofExpression : fault.OfExpression)
    : fault.kind ∈ Kind.ofExpression := by
  cases ofExpression <;> simp [Kind.ofExpression, kind]

end Gosub
