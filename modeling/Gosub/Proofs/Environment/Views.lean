import Gosub.Proofs.Environment.Names
import Gosub.Proofs.Evaluation.Expressions
import Gosub.Proofs.Statement.Tokens
import Gosub.Proofs.Statement.Writes

/-! Views of an environment. What an expression comes to is told by the names that are written in
it: environments that differ only in other variables and arrays evaluate it alike, and they still
differ only in these when the same is written to both.
-/

namespace Gosub

-----------------------------------------------------------------------------------------
-- Stores that agree on some names
-----------------------------------------------------------------------------------------

/-- A choice of variables and arrays by their full names. -/
structure View where
  values : String → Prop
  arrays : String → Prop

/-- The tables have the same dimension and the same cells. -/
structure Table.Matches (left right : Table) : Prop where
  dimension : right.dimension = left.dimension
  cells : ∀ place : String, right.cells[place]? = left.cells[place]?

namespace Store

/-- The stores hold the same variables and arrays, as far as these are in view. -/
structure AgreeOn (view : View) (left right : Store) : Prop where
  values : ∀ key, view.values key → right.values[key]? = left.values[key]?
  arrays : ∀ key, view.arrays key → Option.Rel Table.Matches left.arrays[key]? right.arrays[key]?

namespace AgreeOn

variable {view : View} {left right : Store} {key : String}

theorem fetch_eq (agree : left.AgreeOn view right) (shown : view.values key)
    : right.fetch key = left.fetch key := by
  rw [fetch, fetch, agree.values key shown]

theorem contains_eq (agree : left.AgreeOn view right) (shown : view.arrays key)
    : right.arrays.contains key = left.arrays.contains key := by
  have related := agree.arrays key shown
  rw [Std.TreeMap.contains_eq_isSome_getElem?, Std.TreeMap.contains_eq_isSome_getElem?]
  generalize left.arrays[key]? = found at related
  generalize right.arrays[key]? = found' at related
  cases related <;> rfl

/-- A cell is located in both stores, in arrays that match, or fails to be located in both. -/
theorem locate_cases (agree : left.AgreeOn view right) (shown : view.arrays key)
    (indices : List Value)
    : (∃ fault, left.locate key indices = .error fault ∧ right.locate key indices = .error fault)
      ∨ ∃ table table' place,
          left.locate key indices = .ok (table, place)
          ∧ right.locate key indices = .ok (table', place)
          ∧ table.Matches table' := by
  have related := agree.arrays key shown
  unfold locate array
  generalize left.arrays[key]? = found at related
  generalize right.arrays[key]? = found' at related
  cases related with
  | none => exact .inl ⟨_, rfl, rfl⟩
  | @some table table' same =>
      simp only [bind, Except.bind, same.dimension]
      split
      · exact .inl ⟨_, rfl, rfl⟩
      · split
        · exact .inl ⟨_, rfl, rfl⟩
        · exact .inr ⟨table, table', _, rfl, rfl, same⟩

theorem fetchCell_eq (agree : left.AgreeOn view right) (shown : view.arrays key)
    (indices : List Value)
    : right.fetchCell key indices = left.fetchCell key indices := by
  unfold fetchCell
  rcases agree.locate_cases shown indices with
    ⟨fault, failed, failed'⟩ | ⟨table, table', place, located, located', same⟩
  · rw [failed, failed']
  · simp only [located, located', bind, Except.bind, same.cells]

/-- The same value may go to any variable. -/
theorem insert (agree : left.AgreeOn view right) (key : String) (value : Value)
    : AgreeOn view { left with values := left.values.insert key value }
        { right with values := right.values.insert key value } where
  values other shown := by
    rw [Std.TreeMap.getElem?_insert, Std.TreeMap.getElem?_insert, agree.values other shown]
  arrays := agree.arrays

theorem erase (agree : left.AgreeOn view right) (key : String)
    : AgreeOn view (left.erase key) (right.erase key) where
  values other shown := by
    rw [Store.erase, Store.erase, Std.TreeMap.getElem?_erase, Std.TreeMap.getElem?_erase,
      agree.values other shown]
  arrays := agree.arrays

/-- Arrays that match may take the place of any array. -/
theorem insertArray (agree : left.AgreeOn view right) (key : String) {table table' : Table}
    (same : table.Matches table')
    : AgreeOn view { left with arrays := left.arrays.insert key table }
        { right with arrays := right.arrays.insert key table' } where
  values := agree.values
  arrays other shown := by
    rw [Std.TreeMap.getElem?_insert, Std.TreeMap.getElem?_insert]
    split
    · exact .some same
    · exact agree.arrays other shown

end AgreeOn

/-- The stores hold the same variables and arrays, as far as these are not in view. -/
structure SameBeyond (view : View) (before after : Store) : Prop where
  values : ∀ key : String, ¬ view.values key → after.values[key]? = before.values[key]?
  arrays : ∀ key : String, ¬ view.arrays key → after.arrays[key]? = before.arrays[key]?

namespace SameBeyond

variable {view : View} {before middle after : Store} {key : String}

theorem refl (view : View) (store : Store) : store.SameBeyond view store :=
  ⟨fun _ _ => rfl, fun _ _ => rfl⟩

theorem trans (first : before.SameBeyond view middle) (second : middle.SameBeyond view after)
    : before.SameBeyond view after where
  values key hidden := (second.values key hidden).trans (first.values key hidden)
  arrays key hidden := (second.arrays key hidden).trans (first.arrays key hidden)

theorem insert (shown : view.values key) (value : Value)
    : before.SameBeyond view { before with values := before.values.insert key value } where
  values other hidden := by
    rw [Std.TreeMap.getElem?_insert, if_neg]
    exact fun same => hidden (Std.LawfulEqCmp.eq_of_compare same ▸ shown)
  arrays _ _ := rfl

theorem erase (shown : view.values key) : before.SameBeyond view (before.erase key) where
  values other hidden := by
    rw [Store.erase, Std.TreeMap.getElem?_erase, if_neg]
    exact fun same => hidden (Std.LawfulEqCmp.eq_of_compare same ▸ shown)
  arrays _ _ := rfl

theorem insertArray (shown : view.arrays key) (table : Table)
    : before.SameBeyond view { before with arrays := before.arrays.insert key table } where
  values _ _ := rfl
  arrays other hidden := by
    rw [Std.TreeMap.getElem?_insert, if_neg]
    exact fun same => hidden (Std.LawfulEqCmp.eq_of_compare same ▸ shown)

end SameBeyond

end Store

-----------------------------------------------------------------------------------------
-- Environments that agree
-----------------------------------------------------------------------------------------

namespace Environment

/-- The environments differ at most in variables and arrays that are not in view. -/
structure AgreeOn (view : View) (left right : Environment) : Prop where
  name : right.name = left.name
  scope : right.scope = left.scope
  calls : right.calls = left.calls
  loops : right.loops = left.loops
  store : left.store.AgreeOn view right.store

/-- What is looked up for the token in the environment is in view. The name of a variable may turn
out to be that of an array.
-/
def Shows (env : Environment) (view : View) : Token → Prop
  | .name name => view.values (env.qualify name) ∧ view.arrays (env.qualify name)
  | .indexed name => view.arrays (env.qualify name)
  | _ => True

/-- All that is looked up for the tokens is in view. -/
def ShowsAll (env : Environment) (view : View) (tokens : List Token) : Prop :=
  ∀ token ∈ tokens, env.Shows view token

theorem ShowsAll.mono {env : Environment} {view : View} {tokens part : List Token}
    (shown : env.ShowsAll view tokens) (inside : part ⊆ tokens)
    : env.ShowsAll view part :=
  fun token member => shown token (inside member)

namespace AgreeOn

variable {view : View} {left right : Environment} {name : String}

theorem qualify_eq (agree : left.AgreeOn view right) (name : String)
    : right.qualify name = left.qualify name :=
  qualify_congr agree.scope name

theorem fetch_eq (agree : left.AgreeOn view right) (shown : view.values (left.qualify name))
    : right.fetch name = left.fetch name := by
  rw [fetch, fetch, agree.qualify_eq, agree.store.fetch_eq shown]

theorem fetchCell_eq (agree : left.AgreeOn view right) (shown : view.arrays (left.qualify name))
    (indices : List Value)
    : right.fetchCell name indices = left.fetchCell name indices := by
  rw [fetchCell, fetchCell, agree.qualify_eq, agree.store.fetchCell_eq shown]

theorem read_eq (agree : left.AgreeOn view right) (shown : left.Shows view (.name name))
    : right.read name = left.read name := by
  rw [read, read, agree.qualify_eq, agree.store.contains_eq shown.2, agree.fetchCell_eq shown.2,
    agree.fetch_eq shown.1]

/-- Substitution looks up what is written, by induction along the tokens. -/
theorem substitute_eq (agree : left.AgreeOn view right) {tokens : List Token}
    (shown : left.ShowsAll view tokens)
    : right.substitute tokens = left.substitute tokens := by
  induction tokens using substitutionInduction with
  | nil => rw [substitute_nil, substitute_nil]
  | name name rest ih =>
      rw [ShowsAll, List.forall_mem_cons] at shown
      rw [substitute_name, substitute_name, agree.read_eq shown.1, ih shown.2]
  | cell name rest ih =>
      rw [ShowsAll, List.forall_mem_cons] at shown
      rw [substitute_cell, substitute_cell]
      cases divided : Indices.split rest with
      | error fault => rfl
      | ok found =>
          obtain ⟨groups, after⟩ := found
          obtain ⟨inside, behind⟩ := ih groups after divided
          obtain ⟨ofGroups, ofAfter⟩ := Indices.subset_of_split divided
          have evaluated : right.evaluateAll groups = left.evaluateAll groups := by
            refine evaluateAll_congr fun group member => ?_
            have within := List.Subset.trans (List.sublist_flatten_of_mem member).subset ofGroups
            rw [evaluate, evaluate, inside group member (ShowsAll.mono shown.2 within)]
          simp only [bind, Except.bind, evaluated, behind (ShowsAll.mono shown.2 ofAfter),
            agree.fetchCell_eq shown.1]
  | plain token rest plain ih =>
      rw [ShowsAll, List.forall_mem_cons] at shown
      rw [substitute_plain _ plain, substitute_plain _ plain, ih shown.2]

theorem evaluate_eq (agree : left.AgreeOn view right) {tokens : List Token}
    (shown : left.ShowsAll view tokens)
    : right.evaluate tokens = left.evaluate tokens := by
  rw [evaluate, evaluate, agree.substitute_eq shown]

theorem evaluateAll_eq (agree : left.AgreeOn view right) {groups : List (List Token)}
    (shown : left.ShowsAll view groups.flatten)
    : right.evaluateAll groups = left.evaluateAll groups :=
  evaluateAll_congr fun _ member =>
    agree.evaluate_eq (shown.mono (List.sublist_flatten_of_mem member).subset)

theorem evaluateNumber_eq (agree : left.AgreeOn view right) {tokens : List Token}
    (shown : left.ShowsAll view tokens) (subject : String)
    : right.evaluateNumber tokens subject = left.evaluateNumber tokens subject := by
  rw [evaluateNumber, evaluateNumber, agree.evaluate_eq shown]

theorem lineTarget_eq (agree : left.AgreeOn view right) {tokens : List Token}
    (shown : left.ShowsAll view tokens)
    : right.lineTarget tokens = left.lineTarget tokens := by
  rw [lineTarget, lineTarget, agree.evaluate_eq shown]

theorem loopBounds_eq (agree : left.AgreeOn view right) {goal : List Token}
    {step : Option (List Token)} (shown : left.ShowsAll view (goal ++ step.getD []))
    : right.loopBounds goal step = left.loopBounds goal step := by
  rw [ShowsAll, List.forall_mem_append] at shown
  cases step with
  | none => simp only [loopBounds, agree.evaluateNumber_eq shown.1]
  | some step =>
      have inStep : left.ShowsAll view step := shown.2
      simp only [loopBounds, agree.evaluateNumber_eq shown.1, agree.evaluateNumber_eq inStep]

/-- A condition is evaluated in parts, which are made of its tokens. -/
theorem holds_eq (agree : left.AgreeOn view right) {tokens : List Token}
    (shown : left.ShowsAll view tokens)
    : right.holds tokens = left.holds tokens := by
  have tested : right.test tokens = left.test tokens := by
    unfold test
    have before := agree.evaluate_eq (shown.mono (List.takeWhile_subset (!Token.isRelation ·)))
    have behind := shown.mono (List.dropWhile_subset (!Token.isRelation ·))
    split
    · rename_i relation rest divided
      rw [divided] at behind
      have behind := agree.evaluate_eq (behind.mono (List.subset_cons_self _ _))
      rw [before, behind]
    · rw [agree.evaluate_eq shown]
  rw [holds, holds, tested]

theorem choose_eq (agree : left.AgreeOn view right) {tokens condition body : List Token}
    {otherwise : Option (List Token)} (shown : left.ShowsAll view tokens)
    (read : Statement.ofTokens tokens = .branch condition body otherwise)
    : right.choose condition body otherwise = left.choose condition body otherwise := by
  have within := (Statement.subset_of_branch read).1
  rw [choose, choose, agree.holds_eq (shown.mono within)]

/-- A line comes down to the same command, by induction along the chosen bodies. -/
theorem commandOf_eq (agree : left.AgreeOn view right) {tokens : List Token}
    (shown : left.ShowsAll view tokens)
    : right.commandOf tokens = left.commandOf tokens := by
  fun_induction left.commandOf tokens with
  | case1 tokens command read => exact commandOf_command read
  | case2 tokens condition body otherwise read choice =>
      rw [← agree.choose_eq shown read] at choice
      exact commandOf_unchosen read choice
  | case3 tokens condition body otherwise read chosen choice _ ih =>
      have within := subset_of_choose read choice
      rw [← agree.choose_eq shown read] at choice
      rw [commandOf_chosen read choice, ih (shown.mono within)]

end AgreeOn

end Environment

end Gosub
