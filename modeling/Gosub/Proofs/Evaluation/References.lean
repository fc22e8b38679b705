import Gosub.Proofs.Evaluation.Brackets
import Gosub.Proofs.Evaluation.Expressions
import Mathlib.Control.Monad.Basic

/-! References. Substitution puts one value in the place of every name and of every array cell with
its index groups, and keeps all other tokens. It fails with the first reference that has no value;
for a cell, its brackets are looked at before its indices, and these before the cell itself.
-/

namespace Gosub

section Bind

variable {α β : Type} {first : Except Fault α} {next : α → Except Fault β} {fault : Fault}

theorem bind_eq_ok_iff {result : β}
    : (first >>= next) = .ok result ↔ ∃ value, first = .ok value ∧ next value = .ok result := by
  cases first <;> simp [bind, Except.bind]

theorem bind_eq_error_iff
    : (first >>= next) = .error fault
      ↔ first = .error fault ∨ ∃ value, first = .ok value ∧ next value = .error fault := by
  cases first <;> simp [bind, Except.bind]

end Bind

namespace Environment

-----------------------------------------------------------------------------------------
-- Replacement
-----------------------------------------------------------------------------------------

mutual

/-- The second list is the first one with the value of every name, and of every array name together
with the index groups right after it, in their place.
-/
inductive Replaced (env : Environment) : List Token → List Token → Prop
  | nil : Replaced env [] []
  | plain {token : Token} {tokens done : List Token} (plain : token.isReference = false)
    (more : Replaced env tokens done)
    : Replaced env (token :: tokens) (token :: done)
  | name {name : String} {value : Value} {tokens done : List Token}
    (read : env.read name = .ok value) (more : Replaced env tokens done)
    : Replaced env (.name name :: tokens) (Token.ofValue value :: done)
  | cell {name : String} {groups : List (List Token)} {indices : List Value} {value : Value}
    {tokens rest done : List Token} (leading : Indices.Leading tokens groups rest)
    (indexed : Indexed env groups indices) (stored : env.fetchCell name indices = .ok value)
    (more : Replaced env rest done)
    : Replaced env (.indexed name :: tokens) (Token.ofValue value :: done)

/-- The groups, each with its own references replaced, have these values. -/
inductive Indexed (env : Environment) : List (List Token) → List Value → Prop
  | nil : Indexed env [] []
  | cons {group done : List Token} {value : Value} {groups : List (List Token)}
    {indices : List Value} (replaced : Replaced env group done)
    (calculated : calculate done = .ok value) (more : Indexed env groups indices)
    : Indexed env (group :: groups) (value :: indices)

end

/-- The tokens begin with a reference that has no value. The name is unknown; or the brackets after
it are malformed; or, after indices that have values, a reference in an index has none, or the index
cannot be calculated; or there is no such cell.
-/
inductive Stops (env : Environment) : List Token → Fault → Prop
  | name {name : String} {rest : List Token} {fault : Fault} (unread : env.read name = .error fault)
    : Stops env (.name name :: rest) fault
  | brackets {name : String} {tokens : List Token} {fault : Fault}
    (malformed : Indices.Malformed tokens fault)
    : Stops env (.indexed name :: tokens) fault
  | inside {name : String} {tokens rest front done bad : List Token}
    {earlier later : List (List Token)} {indices : List Value} {fault : Fault}
    (leading : Indices.Leading tokens (earlier ++ (front ++ bad) :: later) rest)
    (indexed : Indexed env earlier indices) (before : Replaced env front done)
    (stops : Stops env bad fault)
    : Stops env (.indexed name :: tokens) fault
  | index {name : String} {tokens rest group done : List Token}
    {earlier later : List (List Token)} {indices : List Value} {fault : Fault}
    (leading : Indices.Leading tokens (earlier ++ group :: later) rest)
    (indexed : Indexed env earlier indices) (replaced : Replaced env group done)
    (failed : calculate done = .error fault)
    : Stops env (.indexed name :: tokens) fault
  | cell {name : String} {tokens rest : List Token} {groups : List (List Token)}
    {indices : List Value} {fault : Fault} (leading : Indices.Leading tokens groups rest)
    (indexed : Indexed env groups indices) (missing : env.fetchCell name indices = .error fault)
    : Stops env (.indexed name :: tokens) fault

/-- The first reference that has no value fails with this fault; all before it are replaced. -/
def Fails (env : Environment) (tokens : List Token) (fault : Fault) : Prop :=
  ∃ front done bad, tokens = front ++ bad ∧ env.Replaced front done ∧ env.Stops bad fault

variable {env : Environment} {tokens done front rest : List Token} {fault : Fault}

/-- What holds of replaced tokens can be shown along them, without looking into their indices. -/
@[elab_as_elim]
theorem Replaced.outerInduction
    {motive : ∀ tokens done, env.Replaced tokens done → Prop} (nil : motive [] [] .nil)
    (plain : ∀ {token : Token} {tokens done} (plain : token.isReference = false)
      (more : env.Replaced tokens done), motive tokens done more → motive _ _ (.plain plain more))
    (name : ∀ {name value tokens done} (read : env.read name = .ok value)
      (more : env.Replaced tokens done), motive tokens done more → motive _ _ (.name read more))
    (cell : ∀ {name groups indices value tokens rest done}
      (leading : Indices.Leading tokens groups rest) (indexed : env.Indexed groups indices)
      (stored : env.fetchCell name indices = .ok value) (more : env.Replaced rest done),
      motive rest done more → motive _ _ (.cell leading indexed stored more))
    (replaced : env.Replaced tokens done)
    : motive tokens done replaced := by
  refine @Replaced.rec env motive (fun _ _ _ => True) nil plain name ?_ trivial ?_ _ _ replaced
  · exact fun leading indexed stored more _ => cell leading indexed stored more
  · exact fun _ _ _ _ _ => trivial

-----------------------------------------------------------------------------------------
-- Index groups
-----------------------------------------------------------------------------------------

theorem evaluateAll_cons (group : List Token) (groups : List (List Token))
    : env.evaluateAll (group :: groups)
      = (do
        let value ← env.evaluate group
        let indices ← env.evaluateAll groups
        .ok (value :: indices)) :=
  List.mapM_cons

/-- The groups have values all together where each of them has one. -/
theorem evaluateAll_eq_ok_iff {groups : List (List Token)} {indices : List Value}
    (each : ∀ group ∈ groups, ∀ done, env.substitute group = .ok done ↔ env.Replaced group done)
    : env.evaluateAll groups = .ok indices ↔ env.Indexed groups indices := by
  induction groups generalizing indices with
  | nil =>
      constructor
      · rintro ⟨⟩
        exact .nil
      · rintro ⟨⟩
        rfl
  | cons group groups ih =>
      rw [List.forall_mem_cons] at each
      simp only [evaluateAll_cons, evaluate, bind_eq_ok_iff, ih each.2, each.1, Except.ok.injEq]
      constructor
      · rintro ⟨value, ⟨done, replaced, calculated⟩, indices, indexed, rfl⟩
        exact .cons replaced calculated indexed
      · rintro (_ | ⟨replaced, calculated, indexed⟩)
        exact ⟨_, ⟨_, replaced, calculated⟩, _, indexed, rfl⟩

/-- Where the groups do not all have values, one fails after others that have. -/
theorem evaluateAll_eq_error {groups : List (List Token)}
    (failed : env.evaluateAll groups = .error fault)
    : ∃ earlier group later indices, groups = earlier ++ group :: later
        ∧ env.evaluateAll earlier = .ok indices ∧ env.evaluate group = .error fault := by
  induction groups with
  | nil => cases failed
  | cons group groups ih =>
      rw [evaluateAll_cons] at failed
      cases evaluated : env.evaluate group with
      | error other =>
          rw [evaluated] at failed
          cases failed
          exact ⟨[], group, groups, [], rfl, rfl, evaluated⟩
      | ok value =>
          cases more : env.evaluateAll groups with
          | ok indices =>
              rw [evaluated, more] at failed
              cases failed
          | error other =>
              rw [evaluated, more] at failed
              cases failed
              obtain ⟨earlier, bad, later, indices, rfl, before, failed⟩ := ih more
              refine ⟨group :: earlier, bad, later, value :: indices, rfl, ?_, failed⟩
              rw [evaluateAll_cons, evaluated, before]
              rfl

theorem evaluateAll_append_error {earlier later : List (List Token)} {group : List Token}
    {indices : List Value} (evaluated : env.evaluateAll earlier = .ok indices)
    (failed : env.evaluate group = .error fault)
    : env.evaluateAll (earlier ++ group :: later) = .error fault := by
  change (earlier ++ group :: later).mapM env.evaluate = .error fault
  change earlier.mapM env.evaluate = .ok indices at evaluated
  rw [List.mapM_append, evaluated, List.mapM_cons, failed]
  rfl

-----------------------------------------------------------------------------------------
-- Substitution and replacement
-----------------------------------------------------------------------------------------

/-- Substitution succeeds with the replaced tokens, by induction along the tokens. -/
theorem substitute_eq_ok_iff : env.substitute tokens = .ok done ↔ env.Replaced tokens done := by
  induction tokens using substitutionInduction generalizing done with
  | nil =>
      rw [substitute_nil]
      constructor
      · rintro ⟨⟩
        exact .nil
      · rintro ⟨⟩
        rfl
  | name name rest ih =>
      simp only [substitute_name, bind_eq_ok_iff, ih, Except.ok.injEq]
      constructor
      · rintro ⟨value, read, done, more, rfl⟩
        exact .name read more
      · rintro (_ | ⟨⟨⟩⟩ | ⟨read, more⟩)
        exact ⟨_, read, _, more, rfl⟩
  | cell name rest ih =>
      simp only [substitute_cell, bind_eq_ok_iff, Prod.exists, Except.ok.injEq]
      constructor
      · rintro ⟨groups, after, divided, indices, evaluated, value, stored, done, more, rfl⟩
        obtain ⟨inside, behind⟩ := ih groups after divided
        exact .cell (Indices.split_eq_ok_iff.mp divided)
          ((evaluateAll_eq_ok_iff fun group member _ => inside group member).mp evaluated) stored
          (behind.mp more)
      · rintro (_ | ⟨⟨⟩⟩ | _ | ⟨leading, indexed, stored, more⟩)
        have divided := Indices.split_of_leading leading
        obtain ⟨inside, behind⟩ := ih _ _ divided
        have evaluated :=
          (evaluateAll_eq_ok_iff fun group member _ => inside group member).mpr indexed
        exact ⟨_, _, divided, _, evaluated, _, stored, _, behind.mpr more, rfl⟩
  | plain token rest plain ih =>
      rw [substitute_plain env plain]
      constructor
      · intro mapped
        cases more : env.substitute rest with
        | error fault =>
            rw [more] at mapped
            cases mapped
        | ok done =>
            rw [more] at mapped
            cases mapped
            exact .plain plain (ih.mp more)
      · rintro (_ | ⟨_, more⟩ | _ | _)
        · rw [ih.mpr more]
          rfl
        · cases plain
        · cases plain

theorem Replaced.plain_of_mem (replaced : env.Replaced tokens done)
    : ∀ token ∈ done, token.isReference = false := by
  have stored (value : Value) : (Token.ofValue value).isReference = false := by
    cases value <;> rfl
  induction replaced using outerInduction with
  | nil => simp
  | plain plain _ ih => exact List.forall_mem_cons.mpr ⟨plain, ih⟩
  | name _ _ ih | cell _ _ _ _ ih => exact List.forall_mem_cons.mpr ⟨stored _, ih⟩

theorem Replaced.length_le (replaced : env.Replaced tokens done)
    : done.length ≤ tokens.length := by
  induction replaced using outerInduction with
  | nil => exact Nat.le_refl 0
  | plain _ _ ih | name _ _ ih => exact Nat.succ_le_succ ih
  | cell leading _ _ _ ih =>
      have text := congrArg List.length leading.text
      rw [List.length_append] at text
      simp only [List.length_cons]
      omega

theorem substitute_of_plain (plain : ∀ token ∈ tokens, token.isReference = false)
    : env.substitute tokens = .ok tokens := by
  induction tokens with
  | nil => exact substitute_nil env
  | cons token tokens ih =>
      rw [List.forall_mem_cons] at plain
      rw [substitute_plain env plain.1, ih plain.2]
      rfl

theorem indexed_iff {groups : List (List Token)} {indices : List Value}
    : env.evaluateAll groups = .ok indices ↔ env.Indexed groups indices :=
  evaluateAll_eq_ok_iff fun _ _ _ => substitute_eq_ok_iff

/-- Behind tokens that are replaced, substitution goes on with what follows them. -/
theorem Replaced.substitute_append (replaced : env.Replaced front done)
    (ended : rest.head? ≠ some Indices.opening)
    : env.substitute (front ++ rest) = (env.substitute rest).map (done ++ ·) := by
  induction replaced using outerInduction with
  | nil =>
      rw [List.nil_append]
      cases env.substitute rest <;> rfl
  | plain plain _ ih =>
      rw [List.cons_append, substitute_plain env plain, ih]
      cases env.substitute rest <;> rfl
  | name read _ ih =>
      rw [List.cons_append, substitute_name, read, ih]
      cases env.substitute rest <;> rfl
  | cell leading indexed stored _ ih =>
      rw [List.cons_append, substitute_cell, Indices.split_of_leading (leading.append ended)]
      simp only [bind, Except.bind, indexed_iff.mpr indexed, stored, ih]
      cases env.substitute rest <;> rfl

-----------------------------------------------------------------------------------------
-- Failure
-----------------------------------------------------------------------------------------

theorem Stops.head?_ne (stops : env.Stops tokens fault)
    : tokens.head? ≠ some Indices.opening := by
  cases stops <;> simp [Indices.opening]

/-- A first reference without a value ends the substitution, by induction over the references in
its indices.
-/
theorem Stops.substitute_eq (stops : env.Stops tokens fault)
    : env.substitute tokens = .error fault := by
  induction stops with
  | name unread =>
      rw [substitute_name, unread]
      rfl
  | brackets malformed =>
      rw [substitute_cell, Indices.split_of_malformed malformed]
      rfl
  | @inside _ _ _ front _ bad _ _ _ fault leading indexed before stops ih =>
      have failed : env.evaluate (front ++ bad) = .error fault := by
        rw [evaluate, before.substitute_append stops.head?_ne, ih]
        rfl
      rw [substitute_cell, Indices.split_of_leading leading]
      simp only [bind, Except.bind, evaluateAll_append_error (indexed_iff.mpr indexed) failed]
  | @index _ _ _ group _ _ _ _ fault leading indexed replaced failed =>
      have failed : env.evaluate group = .error fault := by
        rw [evaluate, substitute_eq_ok_iff.mpr replaced]
        exact failed
      rw [substitute_cell, Indices.split_of_leading leading]
      simp only [bind, Except.bind, evaluateAll_append_error (indexed_iff.mpr indexed) failed]
  | cell leading indexed missing =>
      rw [substitute_cell, Indices.split_of_leading leading]
      simp only [bind, Except.bind, indexed_iff.mpr indexed, missing]

theorem Fails.substitute_eq (fails : env.Fails tokens fault)
    : env.substitute tokens = .error fault := by
  obtain ⟨front, done, bad, rfl, replaced, stops⟩ := fails
  rw [replaced.substitute_append stops.head?_ne, stops.substitute_eq]
  rfl

/-- The first index that fails does so by a reference in it, or else by its calculation. -/
theorem stops_of_evaluateAll {name : String} {groups : List (List Token)}
    (leading : Indices.Leading tokens groups rest) (failed : env.evaluateAll groups = .error fault)
    (inside : ∀ group ∈ groups, ∀ {fault : Fault}, env.substitute group = .error fault
      → env.Fails group fault)
    : env.Stops (.indexed name :: tokens) fault := by
  obtain ⟨earlier, group, later, indices, rfl, evaluated, failed⟩ := evaluateAll_eq_error failed
  have indexed := indexed_iff.mp evaluated
  rcases bind_eq_error_iff.mp failed with unsubstituted | ⟨done, substituted, uncalculated⟩
  · obtain ⟨front, done, bad, rfl, replaced, stops⟩ := inside group (by simp) unsubstituted
    exact .inside leading indexed replaced stops
  · exact .index leading indexed (substitute_eq_ok_iff.mp substituted) uncalculated

/-- A substitution fails with the first reference that has no value, by induction along the
tokens.
-/
theorem fails_of_substitute (failed : env.substitute tokens = .error fault)
    : env.Fails tokens fault := by
  induction tokens using substitutionInduction generalizing fault with
  | nil =>
      rw [substitute_nil] at failed
      cases failed
  | name name rest ih =>
      simp only [substitute_name, bind_eq_error_iff, reduceCtorEq, and_false, exists_false,
        or_false] at failed
      rcases failed with unread | ⟨value, read, failed⟩
      · exact ⟨[], [], _, rfl, .nil, .name unread⟩
      · obtain ⟨front, done, bad, rfl, replaced, stops⟩ := ih failed
        exact ⟨.name name :: front, _, bad, rfl, .name read replaced, stops⟩
  | cell name rest ih =>
      simp only [substitute_cell, bind_eq_error_iff, Prod.exists, reduceCtorEq, and_false,
        exists_false, or_false] at failed
      rcases failed with unsplit | ⟨groups, after, divided, failed⟩
      · exact ⟨[], [], _, rfl, .nil, .brackets (Indices.split_eq_error_iff.mp unsplit)⟩
      · have leading := Indices.split_eq_ok_iff.mp divided
        obtain ⟨inside, behind⟩ := ih groups after divided
        rcases failed with failed | ⟨indices, evaluated, missing | ⟨value, stored, failed⟩⟩
        · exact ⟨[], [], _, rfl, .nil, stops_of_evaluateAll leading failed inside⟩
        · exact ⟨[], [], _, rfl, .nil, .cell leading (indexed_iff.mp evaluated) missing⟩
        · obtain ⟨front, done, bad, rfl, replaced, stops⟩ := behind failed
          obtain ⟨inner, rfl, complete⟩ := leading.of_append
          exact ⟨.indexed name :: inner, _, bad, rfl,
            .cell complete (indexed_iff.mp evaluated) stored replaced, stops⟩
  | plain token rest plain ih =>
      rw [substitute_plain env plain] at failed
      cases more : env.substitute rest with
      | ok done =>
          rw [more] at failed
          cases failed
      | error other =>
          rw [more] at failed
          cases failed
          obtain ⟨front, done, bad, rfl, replaced, stops⟩ := ih more
          exact ⟨token :: front, _, bad, rfl, .plain plain replaced, stops⟩

theorem substitute_eq_error_iff : env.substitute tokens = .error fault ↔ env.Fails tokens fault :=
  ⟨fails_of_substitute, Fails.substitute_eq⟩

/-- Substitution replaces every reference or fails with the first one that has no value. Replaced
tokens hold no reference any more, are no more than there were, and are left as they are by another
substitution.
-/
theorem substitution_complete (env : Environment) (tokens : List Token)
    : (∀ done, env.substitute tokens = .ok done ↔ env.Replaced tokens done)
      ∧ (∀ fault, env.substitute tokens = .error fault ↔ env.Fails tokens fault)
      ∧ ((∃ done, env.Replaced tokens done) ∨ ∃ fault, env.Fails tokens fault)
      ∧ ∀ done, env.substitute tokens = .ok done →
          (∀ token ∈ done, token.isReference = false) ∧ done.length ≤ tokens.length
            ∧ env.substitute done = .ok done := by
  refine ⟨fun _ => substitute_eq_ok_iff, fun _ => substitute_eq_error_iff, ?_, ?_⟩
  · cases outcome : env.substitute tokens with
    | ok done => exact .inl ⟨done, substitute_eq_ok_iff.mp outcome⟩
    | error fault => exact .inr ⟨fault, substitute_eq_error_iff.mp outcome⟩
  · intro done substituted
    have replaced := substitute_eq_ok_iff.mp substituted
    exact ⟨replaced.plain_of_mem, replaced.length_le, substitute_of_plain replaced.plain_of_mem⟩

/-- In `A + M[1 + M[A]] + S`, the inner cell is read for the index of the outer one. -/
theorem substitution_complete_nested_cell
    : let cells : Std.TreeMap String Value :=
        ((∅ : Std.TreeMap String Value).insert "2" (.number 2.0)).insert "3" (.number 7.0)
      let values : Std.TreeMap String Value :=
        ((∅ : Std.TreeMap String Value).insert "A" (.number 2.0)).insert "S" (.text "hi")
      let env : Environment :=
        { name := "main"
          store := { values, arrays := (∅ : Std.TreeMap String Table).insert "M" ⟨1, cells⟩ } }
      let index : List Token :=
        [.number "1", .operator .plus, .indexed "M", .operator .leftBracket, .name "A",
          .operator .rightBracket]
      let tokens : List Token :=
        [.name "A", .operator .plus, .indexed "M", .operator .leftBracket] ++ index
          ++ [.operator .rightBracket, .operator .plus, .name "S"]
      let done : List Token :=
        [.number "2", .operator .plus, .number "7", .operator .plus, .quoted "hi"]
      env.substitute tokens = .ok done ∧ env.substitute done = .ok done := by
  intro cells values env index tokens done
  have two : Token.ofValue (.number 2.0) = .number "2" := by decide +kernel
  have seven : Token.ofValue (.number 7.0) = .number "7" := by decide +kernel
  have readA : env.read "A" = .ok (.number 2.0) := by decide +kernel
  have readS : env.read "S" = .ok (.text "hi") := by decide +kernel
  have replacedIndex : env.Replaced index [.number "1", .operator .plus, .number "2"] := by
    have leading : Indices.Leading (index.drop 3) [[.name "A"]] [] :=
      Indices.split_eq_ok_iff.mp (by
        simp [index, Indices.split, Indices.close?, Indices.opening, Indices.closing])
    have replacedA : env.Replaced [.name "A"] [.number "2"] := by
      rw [← two]
      exact .name readA .nil
    have stored : env.fetchCell "M" [.number 2.0] = .ok (.number 2.0) := by decide +kernel
    have inner := Replaced.cell leading (.cons replacedA (by decide +kernel) .nil) stored .nil
    rw [two] at inner
    exact .plain rfl (.plain rfl inner)
  have replaced : env.Replaced tokens done := by
    have leading
        : Indices.Leading (tokens.drop 3) [index] [.operator .plus, .name "S"] :=
      Indices.split_eq_ok_iff.mp (by
        simp [tokens, index, Indices.split, Indices.close?, Indices.opening, Indices.closing])
    have stored : env.fetchCell "M" [.number 3.0] = .ok (.number 7.0) := by decide +kernel
    have behind := @Replaced.plain env (.operator .plus) _ _ rfl (.name readS .nil)
    have outer := Replaced.cell leading (.cons replacedIndex (by decide +kernel) .nil) stored behind
    rw [seven] at outer
    have whole := Replaced.name readA (@Replaced.plain env (.operator .plus) _ _ rfl outer)
    rwa [two] at whole
  obtain ⟨replaces, -, -, complete⟩ := substitution_complete env tokens
  have substituted := (replaces done).mpr replaced
  exact ⟨substituted, (complete done substituted).2.2⟩

end Environment

end Gosub
