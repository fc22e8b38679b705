import Gosub.Machine.Request

/-!
A host in memory. It collects what is written, answers prompts from a list of replies and stands
at one time of the clock.
-/

namespace Gosub

/-- The state of a host in memory. -/
structure Script where
  output : String := ""
  /-- The replies still to be given. -/
  replies : List String := []
  /-- The prompts so far, the last one first. -/
  prompts : List String := []
  /-- The delays so far, the last one first. -/
  delays : List Float := []
  /-- The time in milliseconds. -/
  clock : Int := 0

namespace Script

/-- Adds text to the output. -/
def write (script : Script) (text : String) : Script :=
  { script with output := script.output ++ text }

/-- What is said of a module that no host knows. -/
def noLoader (path : String) : String :=
  "NO MODULE LOADER FOR " ++ path

/-- The host in memory with the given modules. Once the replies are used up, prompts are answered
with the empty text. -/
def host (modules : String → Option Value) : Responder Script where
  answer request script :=
    match request with
    | .write text => ((), script.write text)
    | .input prompt =>
      let script := { script with prompts := prompt :: script.prompts }
      match script.replies with
      | [] => ("", script)
      | reply :: replies => (reply, { script with replies })
    | .diagnostic text => ((), script.write text)
    | .clock => (script.clock, script)
    | .delay seconds => ((), { script with delays := seconds :: script.delays })
    | .load path =>
      match modules path with
      | some value => (.ok value, script)
      | none => (.error (noLoader path), script)
    | .publish name value => ((), script.write (Request.published name value))

end Script

end Gosub
