import Gosub.Machine.Task

/-!
Worlds. A world is a task together with its host. It keeps every call of the host with its answer,
and the transcript of what the host was told to show.
-/

namespace Gosub

/-- A request and the answer that the host gave. -/
structure Call where
  request : Request
  answer : request.Answer

/-- A task, the state of its host, and what has passed between them. -/
structure World (σ : Type) where
  task : Task
  host : σ
  /-- The calls so far, the last one first. -/
  calls : List Call := []
  transcript : String := ""

namespace World

variable {σ : Type}

/-- Takes one turn, in which the host answers at most one request. -/
def advance (host : Responder σ) (world : World σ) : World σ :=
  match world.task.turn with
  | .done task => { world with task }
  | .ask request resume =>
    let (answer, state) := host.answer request world.host
    { task := resume answer
      host := state
      calls := { request, answer } :: world.calls
      transcript := world.transcript ++ request.transcript }

/-- Takes a number of turns. -/
def advanceBy (host : Responder σ) : Nat → World σ → World σ
  | 0, world => world
  | turns + 1, world => advanceBy host turns (world.advance host)

/-- Whether the task has come to its end. -/
def isFinished (world : World σ) : Bool :=
  world.task.isFinished

end World

end Gosub
