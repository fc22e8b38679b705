import Gosub.Value

/-!
What programs ask of the world around them. A running program never acts by itself: it asks its
host, one request at a time, and goes on with the answer.
-/

namespace Gosub

/-- A request to the host. -/
inductive Request where
  /-- Write program output. -/
  | write (text : String)
  /-- Show the prompt and read a reply. -/
  | input (prompt : String)
  /-- Show an error report. -/
  | diagnostic (text : String)
  /-- Tell the time in milliseconds. -/
  | clock
  /-- Wait for some seconds. -/
  | delay (seconds : Float)
  /-- Load a module. -/
  | load (path : String)
  /-- Publish the value of a variable. -/
  | publish (name : String) (value : Value)
deriving DecidableEq, Repr

namespace Request

/-- The type of answers to a request. A module that cannot be loaded is answered with a reason. -/
def Answer : Request → Type
  | .input _ => String
  | .clock => Int
  | .load _ => Except String Value
  | _ => Unit

/-- The text of a published value. -/
def published (name : String) (value : Value) : String :=
  "exp:" ++ name ++ ":" ++ value.printed ++ "\n"

/-- The text that a request adds to the transcript of a run. -/
def transcript : Request → String
  | .write text => text
  | .diagnostic text => text
  | .publish name value => published name value
  | _ => ""

end Request

/-- A piece of work that is done at once or after one request to the host. -/
inductive Turn (α : Type) where
  | done (result : α)
  | ask (request : Request) (resume : request.Answer → α)

/-- Goes on with the result of a turn. -/
def Turn.map {α β : Type} (f : α → β) : Turn α → Turn β
  | .done result => .done (f result)
  | .ask request resume => .ask request fun answer => f (resume answer)

/-- A host with states in `σ`: it answers each request and may change its state. -/
structure Responder (σ : Type) where
  answer : (request : Request) → σ → request.Answer × σ

end Gosub
