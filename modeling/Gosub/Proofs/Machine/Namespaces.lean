import Gosub.Machine.Script
import Gosub.Proofs.Machine.Views

/-! Namespaces isolate. Every access to a variable or an array qualifies the name again, and a name
without a mark always ends up in the namespace that is active. So a part of a run that stays in one
namespace, and writes no name with a mark, neither changes nor sees anything outside of it.
-/

namespace Gosub

/-- The variables and the arrays of a namespace. -/
def View.ofNamespace (scope : String) : View where
  values := InNamespace scope
  arrays := InNamespace scope

/-- The token is no name with a mark. -/
def Token.Unmarked : Token → Prop
  | .name s | .indexed s => '@' ∉ s.toList
  | _ => True

instance (token : Token) : Decidable token.Unmarked :=
  match token with
  | .name s | .indexed s => inferInstanceAs (Decidable ('@' ∉ s.toList))
  | .keyword _ | .number _ | .quoted _ | .operator _ | .relation _ | .truth _ => isTrue trivial

namespace Environment

variable {env : Environment} {scope : String}

theorem inNamespace_qualify (active : scope ≠ "") (here : env.scope = scope) {name : String}
    (unmarked : '@' ∉ name.toList)
    : InNamespace scope (env.qualify name) := by
  subst here
  exact ⟨name, unmarked, qualify_of_scoped active unmarked⟩

theorem shows_of_unmarked (active : scope ≠ "") (here : env.scope = scope) {token : Token}
    (unmarked : token.Unmarked)
    : env.Shows (.ofNamespace scope) token := by
  cases token with
  | name name =>
      have inside := inNamespace_qualify active here unmarked
      exact ⟨inside, inside⟩
  | indexed name => exact inNamespace_qualify active here unmarked
  | _ => trivial

end Environment

/-- The next line keeps to the namespace: it is active in every environment that the line works on,
and neither a name of the line nor the variable of a running loop has a mark.
-/
def Interpreter.KeepsIn (interpreter : Interpreter) (scope : String) : Prop :=
  ∀ line env,
    interpreter.program.line? interpreter.position = some line
    → interpreter.WorksOn line env
    → env.scope = scope
      ∧ (∀ token ∈ line.tokens, token.Unmarked)
      ∧ ∀ loop ∈ env.loops.items, '@' ∉ loop.name.toList

theorem Interpreter.Grounded.keepsIn {interpreter : Interpreter} {env : Environment}
    {scope : String} (grounded : interpreter.Grounded env) (here : env.scope = scope)
    (unmarked
      : ∀ line,
          interpreter.program.line? interpreter.position = some line
          → ∀ token ∈ line.tokens, token.Unmarked)
    (loops : ∀ loop ∈ env.loops.items, '@' ∉ loop.name.toList)
    : interpreter.KeepsIn scope := by
  intro line env' found works
  obtain rfl := grounded.eq_of_worksOn works
  exact ⟨here, unmarked line found, loops⟩

/-- The next line keeps to the namespace, if there is a next line. -/
def Task.KeepsIn (task : Task) (scope : String) : Prop :=
  ∀ interpreter policy, task = .executing interpreter policy → interpreter.KeepsIn scope

/-- What keeps to a namespace looks up nothing else. -/
theorem Task.KeepsIn.inView {task : Task} {scope : String} (keeps : task.KeepsIn scope)
    (active : scope ≠ "")
    : task.InView (.ofNamespace scope) := by
  intro interpreter policy executing line env found works
  obtain ⟨here, unmarked, loops⟩ := keeps interpreter policy executing line env found works
  constructor
  · exact fun token member => env.shows_of_unmarked active here (unmarked token member)
  · exact fun loop member => env.inNamespace_qualify active here (loops loop member)

namespace World

variable {σ : Type}

/-- Namespaces isolate. Take any execution, with any environments and at any position, whose next
turns all keep to one namespace. At their end every variable and every array outside of the
namespace, in every environment, is what it was. And an execution of the same program that differs
only in variables and arrays outside of the namespace makes the same calls in these turns, comes to
the same point or the same end, and agrees on all that is in the namespace, as long as neither finds
the store full.
-/
theorem namespace_isolates {scope : String} (active : scope ≠ "") (host : Responder σ) (state : σ)
    (policy : ErrorPolicy) {left : Interpreter} (turns : Nat)
    (keeps
      : ∀ earlier < turns,
          (advanceBy host earlier
            { task := .executing left policy, host := state }).task.KeepsIn scope)
    : (∃ after,
        (advanceBy host turns
          { task := .executing left policy, host := state }).task.interpreter? = some after
        ∧ ∀ id env,
            left.roster.get? id = some env
            → ∃ env',
                after.roster.get? id = some env'
                ∧ ∀ key,
                    ¬ InNamespace scope key
                    → env'.store.values[key]? = env.store.values[key]?
                      ∧ env'.store.arrays[key]? = env.store.arrays[key]?)
      ∧ ∀ right,
          left.Alike (.ofNamespace scope) right
          → (∀ earlier ≤ turns,
              ¬ (advanceBy host earlier
                  { task := .executing left policy, host := state }).task.Crowded
              ∧ ¬ (advanceBy host earlier
                  { task := .executing right policy, host := state }).task.Crowded)
          → Alike (.ofNamespace scope)
              (advanceBy host turns { task := .executing left policy, host := state })
              (advanceBy host turns { task := .executing right policy, host := state }) := by
  have inView := fun earlier bound => (keeps earlier bound).inView active
  constructor
  · obtain ⟨after, reached, same⟩ := sameBeyond_advanceBy rfl host turns inView
    refine ⟨after, reached, fun id env found => ?_⟩
    obtain ⟨env', found', beyond⟩ := same id env found
    exact ⟨env', found', fun key outside => ⟨beyond.values key outside, beyond.arrays key outside⟩⟩
  · intro right alike room
    have start
        : Alike (.ofNamespace scope) { task := .executing left policy, host := state }
            { task := .executing right policy, host := state } :=
      ⟨⟨rfl, rfl, rfl⟩, .executing alike policy⟩
    exact start.later host turns inView room

/-- A copy and an output in a namespace whose name has a mark itself. Outside of it, the two
executions differ.
-/
theorem namespace_isolates_with_mark
    : let host : Responder Script := Script.host fun _ => none
      let program : Program :=
        ⟨#[
          ⟨10, [.keyword .LET, .name "Y", .operator .assign, .name "X"]⟩,
          ⟨20, [.keyword .PRINT, .name "Y"]⟩]⟩
      let env (outside : Float) : Environment :=
        { name := "main"
          scope := "N@M"
          store :=
            { values :=
                ((∅ : Std.TreeMap String Value).insert "X" (.number outside)).insert "N@M@X"
                  (.number 5.0) } }
      let interpreter (outside : Float) : Interpreter :=
        { program, roster := ⟨#[env outside]⟩, id := 0, mode := .pro }
      let world (outside : Float) : World Script :=
        { task := .executing (interpreter outside) .absorb, host := {} }
      (∀ earlier < 2, (advanceBy host earlier (world 1.0)).task.KeepsIn "N@M")
      ∧ (interpreter 1.0).Alike (.ofNamespace "N@M") (interpreter 2.0)
      ∧ Alike (.ofNamespace "N@M") (advanceBy host 2 (world 1.0)) (advanceBy host 2 (world 2.0))
      ∧ (advanceBy host 2 (world 2.0)).transcript = "5\n" := by
  intro host program env interpreter world
  have executes : (world 1.0).Executes .absorb (interpreter 1.0) (env 1.0) :=
    ⟨rfl, rfl, rfl, by decide +kernel⟩
  have keeps : ∀ earlier < 2, (advanceBy host earlier (world 1.0)).task.KeepsIn "N@M" := by
    intro earlier bound interpreter policy executing
    have going : ∀ k < 2, (advanceBy host k (world 1.0)).task.isExecuting = true := by
      decide +kernel
    have glance
        : ∀ k < 2,
            (advanceBy host k (world 1.0)).task.env?.map (fun env => (env.scope, env.loops.items))
            = some ("N@M", []) := by
      decide +kernel
    have plain : ∀ line ∈ program.lines, ∀ token ∈ line.tokens, token.Unmarked := by
      decide +kernel
    obtain ⟨after, env', executes', onProgram⟩ := executes.of_isExecuting (going earlier bound)
    have glance := glance earlier bound
    have held : (Task.executing after .absorb).env? = some env' := executes'.grounded.found
    rw [executes'.task, held, Option.map_some, Option.some.injEq, Prod.mk.injEq] at glance
    cases executes'.task.symm.trans executing
    refine executes'.grounded.keepsIn glance.1 (fun line found => plain line ?_) ?_
    · rw [onProgram] at found
      exact Array.mem_of_getElem? found
    · rw [glance.2]
      exact fun _ member => absurd member List.not_mem_nil
  have apart : ¬ InNamespace "N@M" "X" := by
    rintro ⟨name, _, same⟩
    have marked : '@' ∈ ("N@M" ++ "@" ++ name).toList := by simp
    rw [← same] at marked
    exact absurd marked (by decide)
  have agree : (env 1.0).AgreeOn (.ofNamespace "N@M") (env 2.0) := by
    refine ⟨rfl, rfl, rfl, rfl, fun key inside => ?_, fun key inside => .none⟩
    have other : compare "X" key ≠ .eq := fun same =>
      apart (Std.LawfulEqCmp.eq_of_compare same ▸ inside)
    simp only [env, Std.TreeMap.getElem?_insert, other, if_false]
  have alike : (interpreter 1.0).Alike (.ofNamespace "N@M") (interpreter 2.0) := by
    refine @Interpreter.Alike.differ _ (interpreter 1.0) ⟨#[env 2.0]⟩ fun id => ?_
    cases id with
    | zero => exact .some agree
    | succ id => exact .none
  have room
      : ∀ earlier ≤ 2,
          ¬ (advanceBy host earlier (world 1.0)).task.Crowded
          ∧ ¬ (advanceBy host earlier (world 2.0)).task.Crowded := by
    decide +kernel
  refine ⟨keeps, alike, ?_, by decide +kernel⟩
  exact (namespace_isolates (by decide) host {} .absorb 2 keeps).2 _ alike room

end World

end Gosub
