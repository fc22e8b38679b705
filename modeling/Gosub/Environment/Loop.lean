import Gosub.Fault
import Gosub.Text.Quoted

/-! Running `FOR` loops. -/

namespace Gosub

/-- A running loop. -/
structure Loop where
  /-- The loop variable as it is written in the program. -/
  name : String
  goal : Float
  step : Float
  /-- The position of the line that opened the loop. -/
  anchor : Nat
  /-- How many iterations have been counted. -/
  count : Nat
deriving DecidableEq, Repr

namespace Loop

/-- The loop with one more iteration counted. -/
def counted (loop : Loop) : Loop :=
  { loop with count := loop.count + 1 }

/-- Refuses a loop that has counted too many iterations. -/
def check (loop : Loop) : Except Fault Unit :=
  if maxIterations < loop.count then .error (.runawayLoop loop.name) else .ok ()

/-- Whether a further step would carry the variable past the goal, in the direction of the step.
-/
def overshoots (loop : Loop) (value : Float) : Bool :=
  if loop.step < 0.0 then value + loop.step < loop.goal else loop.goal < value + loop.step

/-- A loop as it stands in a report. -/
def printed (loop : Loop) : String :=
  "LoopFrame \x7b var_name: " ++ Text.quoted loop.name
    ++ ", goal: " ++ Layout.report.write loop.goal
    ++ ", step: " ++ Layout.report.write loop.step ++ ", anchor: " ++ toString loop.anchor
    ++ ", count: " ++ toString loop.count ++ " \x7d"

end Loop

end Gosub
