import Gosub.Machine.Script
import Gosub.Proofs.Machine.Runs

/-! What passes between a task and its host. Turns that make the same requests leave the same
behind, a finished run leaves nothing more behind, and the transcript of a run is just what its host
has been told to show.
-/

namespace Gosub

-----------------------------------------------------------------------------------------
-- Turns side by side
-----------------------------------------------------------------------------------------

/-- The two turns make the same request, if they make one, and their results are related whatever
the answer is.
-/
inductive Turn.Related {α β : Type} (R : α → β → Prop) : Turn α → Turn β → Prop
  | done {left : α} {right : β} (related : R left right) : Related R (.done left) (.done right)
  | ask {request : Request} {resume : request.Answer → α} {resume' : request.Answer → β}
    (related : ∀ answer, R (resume answer) (resume' answer))
    : Related R (.ask request resume) (.ask request resume')

/-- One turn that goes on in two ways is related to itself, if its results are. -/
theorem Turn.Related.of_map {α β γ : Type} {R : α → β → Prop} {turn : Turn γ} {f : γ → α}
    {g : γ → β} (related : ∀ result, turn.Yields result → R (f result) (g result))
    : Related R (turn.map f) (turn.map g) := by
  cases turn with
  | done result => exact .done (related result (.done result))
  | ask request resume => exact .ask fun answer => related _ (.ask resume answer)

/-- Related turns that go on in related ways stay related. -/
theorem Turn.Related.map {α β γ δ : Type} {R : α → β → Prop} {S : γ → δ → Prop} {turn : Turn α}
    {turn' : Turn β} {f : α → γ} {g : β → δ} (related : Related R turn turn')
    (goes : ∀ left right, R left right → S (f left) (g right))
    : Related S (turn.map f) (turn'.map g) := by
  cases related with
  | done related => exact .done (goes _ _ related)
  | ask related => exact .ask fun answer => goes _ _ (related answer)

-----------------------------------------------------------------------------------------
-- The past of a run
-----------------------------------------------------------------------------------------

namespace World

variable {σ : Type}

/-- The same has passed between the tasks and their hosts. -/
structure SameHistory (left right : World σ) : Prop where
  host : right.host = left.host
  calls : right.calls = left.calls
  transcript : right.transcript = left.transcript

/-- Related turns leave the same behind at the same host. -/
theorem SameHistory.advance {left right : World σ} (same : SameHistory left right)
    {R : Task → Task → Prop} (related : Turn.Related R left.task.turn right.task.turn)
    (host : Responder σ)
    : SameHistory (left.advance host) (right.advance host)
      ∧ R (left.advance host).task (right.advance host).task := by
  unfold World.advance
  generalize left.task.turn = turn at related
  generalize right.task.turn = turn' at related
  cases related with
  | done related => exact ⟨⟨same.host, same.calls, same.transcript⟩, related⟩
  | ask related =>
      simp only [same.host, same.calls, same.transcript]
      exact ⟨⟨rfl, rfl, rfl⟩, related _⟩

/-- A turn without a request leaves nothing behind. -/
theorem SameHistory.advance_done {left right : World σ} (same : SameHistory left right)
    {after : Task} (done : right.task.turn = .done after) (host : Responder σ)
    : SameHistory left (right.advance host) ∧ (right.advance host).task = after := by
  unfold World.advance
  rw [done]
  exact ⟨⟨same.host, same.calls, same.transcript⟩, rfl⟩

theorem advanceBy_add (host : Responder σ) (turns later : Nat) (world : World σ)
    : advanceBy host (turns + later) world = advanceBy host later (advanceBy host turns world) := by
  induction later with
  | zero => rfl
  | succ later ih => rw [← Nat.add_assoc, advanceBy_succ, ih, advanceBy_succ]

/-- A turn of a finished run leaves everything as it is. -/
theorem advance_of_finished {world : World σ} (finished : world.isFinished = true)
    (host : Responder σ)
    : world.advance host = world := by
  obtain ⟨task, state, calls, transcript⟩ := world
  cases task with
  | rejected | executing | reporting => cases finished
  | finished => rfl

/-- A run that is finished goes nowhere, whatever the host. -/
theorem advanceBy_of_finished {world : World σ} (finished : world.isFinished = true)
    (host : Responder σ) (turns : Nat)
    : advanceBy host turns world = world := by
  induction turns with
  | zero => rfl
  | succ turns ih => rw [advanceBy, advance_of_finished finished, ih]

end World

-----------------------------------------------------------------------------------------
-- Transcripts
-----------------------------------------------------------------------------------------

/-- The text that a request tells the host to show. A published value is told by its name. -/
def Request.told : Request → String
  | .write text | .diagnostic text => text
  | .publish name value => "exp:" ++ name ++ ":" ++ value.printed ++ "\n"
  | .input _ | .clock | .delay _ | .load _ => ""

theorem Request.transcript_eq (request : Request) : request.transcript = request.told := by
  cases request <;> rfl

/-- The host keeps an output, to which it adds what it is told to show and nothing else. -/
def Responder.Shows {σ : Type} (host : Responder σ) (output : σ → String) : Prop :=
  ∀ request state, output (host.answer request state).2 = output state ++ request.told

/-- The host in memory shows what it is told, whatever modules it knows. -/
theorem Script.host_shows (modules : String → Option Value)
    : (Script.host modules).Shows Script.output := by
  intro request script
  cases request with
  | write | diagnostic | publish => rfl
  | clock | delay => exact (String.append_empty).symm
  | input prompt =>
      obtain ⟨output, replies, prompts, delays, clock⟩ := script
      cases replies <;> exact (String.append_empty).symm
  | load path =>
      simp only [Script.host]
      split <;> exact (String.append_empty).symm

namespace World

variable {σ : Type}

/-- What the host has been told to show, from the first call to the last. -/
def told (world : World σ) : String :=
  String.join (world.calls.reverse.map fun call => call.request.told)

/-- A turn adds to the transcript what it tells the host to show. -/
theorem transcript_advance {world : World σ} (level : world.transcript = world.told)
    (host : Responder σ)
    : (world.advance host).transcript = (world.advance host).told := by
  unfold advance
  cases world.task.turn with
  | done task => exact level
  | ask request resume =>
      simp only [told, List.reverse_cons, List.map_append, List.map_cons, List.map_nil,
        String.join_append, String.join_cons, String.join_nil, String.append_empty]
      rw [level, Request.transcript_eq]
      rfl

/-- A turn adds to the output of a host that shows what it is told just what it adds to the
transcript.
-/
theorem output_advance {world : World σ} {host : Responder σ} {output : σ → String}
    (shows : host.Shows output) (level : output world.host = world.transcript)
    : output (world.advance host).host = (world.advance host).transcript := by
  unfold advance
  cases world.task.turn with
  | done task => exact level
  | ask request resume =>
      dsimp only
      rw [shows, level, Request.transcript_eq]

/-- The output of such a host stays level with the transcript, by induction on the turns. -/
theorem output_advanceBy {world : World σ} {host : Responder σ} {output : σ → String}
    (shows : host.Shows output) (level : output world.host = world.transcript) (turns : Nat)
    : output (advanceBy host turns world).host = (advanceBy host turns world).transcript := by
  induction turns with
  | zero => exact level
  | succ turns ih =>
      rw [advanceBy_succ]
      exact output_advance shows ih

/-- The transcript of a run is exactly what the host was told. For every source, all options, all
initial variables and every host, it joins what the calls so far told the host to show, in their
order: at the end of the run, however it ends, and at every point before. So it is the output of
every host that shows what it is told and starts with nothing shown, such as the host in memory.
-/
theorem transcript_eq_told (host : Responder σ) (state : σ) (source : String)
    (options : RunOptions) (initial : List (String × Value)) (turns : Nat)
    : let world := advanceBy host turns { task := .start source options initial, host := state }
      world.transcript = world.told
      ∧ (∀ output : σ → String,
          host.Shows output → output state = "" → output world.host = world.transcript)
      ∧ ∀ (modules : String → Option Value) (script : Script),
          let world :=
            advanceBy (Script.host modules) turns
              { task := .start source options initial, host := { script with output := "" } }
          world.host.output = world.transcript := by
  intro world
  refine ⟨?_, ?_, ?_⟩
  · unfold world
    induction turns with
    | zero => rfl
    | succ turns ih =>
        rw [advanceBy_succ]
        exact transcript_advance ih host
  · intro output shows empty
    exact output_advanceBy shows empty turns
  · intro modules script
    exact output_advanceBy (Script.host_shows modules) rfl turns

end World

end Gosub
