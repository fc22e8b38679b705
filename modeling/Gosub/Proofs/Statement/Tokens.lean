import Gosub.Proofs.Evaluation.Faults
import Gosub.Proofs.Machine.Conditionals

/-! The tokens of commands. A line is cut up and put together again on its way to a command, but
nothing is added: every token that a command is made of stands in its line. So the names that a line
can look up or write to are all written in it.
-/

namespace Gosub

-----------------------------------------------------------------------------------------
-- Cutting a line
-----------------------------------------------------------------------------------------

theorem subset_of_cutAt? {mark : Token} {tokens before after : List Token}
    (cut : cutAt? mark tokens = some (before, after))
    : before ⊆ tokens ∧ after ⊆ tokens := by
  unfold cutAt? at cut
  split at cut
  · cases cut
  · rename_i mark' rest dropped
    cases cut
    constructor
    · exact (List.takeWhile_sublist _).subset
    · intro token member
      apply (List.dropWhile_sublist (· != mark)).subset
      rw [dropped]
      exact List.mem_cons_of_mem _ member

theorem Indices.subset_of_split {tokens rest : List Token} {groups : List (List Token)}
    (done : split tokens = .ok (groups, rest))
    : groups.flatten ⊆ tokens ∧ rest ⊆ tokens := by
  obtain ⟨parts, front, ended⟩ := parts_of_split done
  constructor
  · intro token member
    obtain ⟨group, inside, member⟩ := List.mem_flatten.mp member
    obtain ⟨before, after, text⟩ := parts group inside
    rw [text]
    exact List.mem_append_right _ (List.mem_append_left _ member)
  · rw [ended]
    exact List.subset_append_right front rest

/-- The condition and the bodies of a conditional are made of its tokens. -/
theorem Statement.subset_of_branch {tokens condition body : List Token}
    {otherwise : Option (List Token)}
    (read : ofTokens tokens = .branch condition body otherwise)
    : condition ⊆ tokens ∧ body ⊆ tokens ∧ ∀ other ∈ otherwise, other ⊆ tokens := by
  unfold ofTokens at read
  split at read
  · split at read
    · cases read
    · rename_i opened
      obtain ⟨before, outer⟩ := subset_of_cutAt? opened
      split at read
      · cases read
        exact ⟨List.subset_cons_of_subset _ before, List.subset_cons_of_subset _ outer, nofun⟩
      · rename_i divided
        obtain ⟨first, second⟩ := subset_of_cutAt? divided
        cases read
        refine ⟨List.subset_cons_of_subset _ before,
          List.subset_cons_of_subset _ (List.Subset.trans first outer), ?_⟩
        rintro other ⟨⟩
        exact List.subset_cons_of_subset _ (List.Subset.trans second outer)
  · cases read

-----------------------------------------------------------------------------------------
-- What commands are made of
-----------------------------------------------------------------------------------------

theorem Reading.name_of_ofName? {name : String} {reading : Reading}
    (found : ofName? name = some reading)
    : reading.name = name := by
  have named := List.find?_some found
  exact beq_iff_eq.mp named

namespace Command

/-- The tokens that a command is made of. The reading of a clock is loaded into the variable of its
name.
-/
def tokens : Command → List Token
  | .skip | .refuse _ | .halt | .goBack => []
  | .print expression | .goto expression | .gosub expression | .setScope expression
  | .pause expression => expression
  | .assign name expression | .input expression name | .load expression name =>
    .name name :: expression
  | .assignCell name indices expression => .indexed name :: (indices.flatten ++ expression)
  | .declare name dimension => .name name :: dimension.getD []
  | .readClock reading => [.name reading.name]
  | .publish name => [.name name]
  | .openLoop name start goal step => .name name :: (start ++ (goal ++ step.getD []))
  | .closeLoop name => (name.map Token.name).toList

theorem tokens_ofCell (name : String) (arguments : List Token)
    : (ofCell name arguments).tokens ⊆ .indexed name :: arguments := by
  unfold ofCell
  split
  · exact List.nil_subset _
  · rename_i divided
    obtain ⟨groups, rest⟩ := Indices.subset_of_split divided
    split
    · refine List.cons_subset_cons _ (List.append_subset.mpr ⟨groups, ?_⟩)
      exact List.Subset.trans (List.subset_cons_self _ _) rest
    · exact List.nil_subset _

theorem tokens_ofLet (arguments : List Token) : (ofLet arguments).tokens ⊆ arguments := by
  unfold ofLet
  split
  · exact List.cons_subset_cons _ (List.subset_cons_self _ _)
  · exact tokens_ofCell _ _
  · exact List.nil_subset _

theorem tokens_ofArray (arguments : List Token) : (ofArray arguments).tokens ⊆ arguments := by
  unfold ofArray
  split
  · split
    · exact List.Subset.refl _
    · exact List.cons_subset_cons _ (List.subset_cons_self _ _)
    · exact List.nil_subset _
  · exact List.nil_subset _

theorem tokens_ofInput (arguments : List Token) : (ofInput arguments).tokens ⊆ arguments := by
  unfold ofInput
  cases cut : cutAt? (.operator .semicolon) arguments with
  | none =>
      dsimp only [Option.getD_none]
      split
      · exact List.Subset.refl _
      · exact List.nil_subset _
  | some parts =>
      obtain ⟨prompt, target⟩ := subset_of_cutAt? cut
      dsimp only [Option.getD_some]
      split
      · rename_i same
        rw [same] at target
        exact List.cons_subset.mpr ⟨target List.mem_cons_self, prompt⟩
      · exact List.nil_subset _

theorem tokens_ofLoad (arguments : List Token) : (ofLoad arguments).tokens ⊆ arguments := by
  unfold ofLoad
  split
  · split
    · rename_i found
      rw [tokens, Reading.name_of_ofName? found]
      exact List.Subset.refl _
    · exact List.nil_subset _
  · exact List.nil_subset _

theorem tokens_ofImport (arguments : List Token) : (ofImport arguments).tokens ⊆ arguments := by
  unfold ofImport
  split
  · exact List.nil_subset _
  · rename_i cut
    obtain ⟨path, target⟩ := subset_of_cutAt? cut
    split
    · exact List.cons_subset.mpr ⟨target List.mem_cons_self, path⟩
    · exact List.nil_subset _

theorem tokens_ofExport (arguments : List Token) : (ofExport arguments).tokens ⊆ arguments := by
  unfold ofExport
  split
  · exact List.Subset.refl _
  · exact List.nil_subset _

theorem tokens_ofFor (arguments : List Token) : (ofFor arguments).tokens ⊆ arguments := by
  unfold ofFor
  split
  · split
    · exact List.nil_subset _
    · rename_i cut
      obtain ⟨start, rest⟩ := subset_of_cutAt? cut
      split
      · exact List.nil_subset _
      · split
        · refine List.cons_subset_cons _ (List.subset_cons_of_subset _ ?_)
          rw [Option.getD_none, List.append_nil]
          exact List.append_subset.mpr ⟨start, rest⟩
        · rename_i cut'
          obtain ⟨goal, step⟩ := subset_of_cutAt? cut'
          refine List.cons_subset_cons _ (List.subset_cons_of_subset _ ?_)
          refine List.append_subset.mpr ⟨start, List.append_subset.mpr ⟨?_, ?_⟩⟩
          · exact List.Subset.trans goal rest
          · exact List.Subset.trans step rest
  · exact List.nil_subset _

theorem tokens_ofNext (arguments : List Token) : (ofNext arguments).tokens ⊆ arguments := by
  unfold ofNext
  split
  · exact List.nil_subset _
  · exact List.Subset.refl _
  · exact List.nil_subset _

theorem tokens_ofKeyword (keyword : Keyword) (arguments : List Token)
    : (ofKeyword keyword arguments).tokens ⊆ arguments := by
  unfold ofKeyword
  split
  case h_1 | h_6 | h_9 | h_17 => exact List.nil_subset _
  case h_2 | h_7 | h_8 | h_10 | h_14 => exact List.Subset.refl _
  case h_3 => exact tokens_ofLet arguments
  case h_4 => exact tokens_ofArray arguments
  case h_5 => exact tokens_ofInput arguments
  case h_11 => exact tokens_ofLoad arguments
  case h_12 => exact tokens_ofImport arguments
  case h_13 => exact tokens_ofExport arguments
  case h_15 => exact tokens_ofFor arguments
  case h_16 => exact tokens_ofNext arguments

theorem tokens_ofTokens (tokens : List Token) : (ofTokens tokens).tokens ⊆ tokens := by
  unfold ofTokens
  split
  · exact List.nil_subset _
  · exact List.subset_cons_of_subset _ (tokens_ofKeyword _ _)
  · exact tokens_ofCell _ _
  · split
    · exact List.cons_subset_cons _ (List.subset_cons_self _ _)
    · exact List.nil_subset _
  · exact List.nil_subset _

end Command

/-- A line that is one command is that command. -/
theorem Statement.tokens_of_command {tokens : List Token} {command : Command}
    (read : ofTokens tokens = .command command)
    : command.tokens ⊆ tokens := by
  unfold ofTokens at read
  split at read
  · split at read
    · cases read
      exact List.nil_subset _
    · split at read <;> cases read
  · cases read
    exact Command.tokens_ofTokens tokens

namespace Environment

/-- The chosen body of a conditional is made of its tokens. -/
theorem subset_of_choose {env : Environment} {tokens condition body chosen : List Token}
    {otherwise : Option (List Token)}
    (read : Statement.ofTokens tokens = .branch condition body otherwise)
    (choice : env.choose condition body otherwise = some chosen)
    : chosen ⊆ tokens := by
  obtain ⟨_, inBody, inOther⟩ := Statement.subset_of_branch read
  unfold choose at choice
  split at choice
  · cases choice
    exact inBody
  · exact inOther chosen choice

/-- A line comes down to a command that is made of its tokens, by induction along the chosen bodies.
-/
theorem tokens_commandOf (env : Environment) (tokens : List Token)
    : (env.commandOf tokens).tokens ⊆ tokens := by
  fun_induction env.commandOf tokens with
  | case1 tokens command read => exact Statement.tokens_of_command read
  | case2 => exact List.nil_subset _
  | case3 tokens condition body otherwise read chosen choice _ ih =>
      exact List.Subset.trans ih (subset_of_choose read choice)

end Environment

/-- The command of a line is made of tokens of the line, whatever environment it works on. -/
theorem Interpreter.Performs.tokens_subset {interpreter : Interpreter} {line : Line} {id : Nat}
    {env : Environment} {command : Command} (performs : interpreter.Performs line id env command)
    : command.tokens ⊆ line.tokens := by
  cases performs with
  | directly found read => exact Statement.tokens_of_command read
  | inside owns read choice first found =>
      exact List.Subset.trans (env.tokens_commandOf _) (Environment.subset_of_choose read choice)

end Gosub
