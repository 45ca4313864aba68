import ParserGraph.Parser.Expectations
import ParserGraph.Text.Position
import ParserGraph.Value.Basic

/-!
# Outcomes

What comes of running a parser: the value that it produced and the offset that it
reached, or the furthest place that it failed at and what was expected there.
-/

namespace ParserGraph

/-- A run that did not match. -/
structure Failure where
  expected : Expectations
  /-- The furthest place of failure. -/
  position : Position
deriving DecidableEq

def Failure.display (failure : Failure) : String :=
  failure.expected.describe ++ " at " ++ failure.position.display

/-- What comes of a run. -/
inductive Outcome where
  /-- The run produced a value and read up to an offset. -/
  | success (value : Value) (stop : Nat)
  | failure (reason : Failure)

namespace Outcome

/-- The run matched. -/
def isSuccess : Outcome → Bool
  | .success _ _ => true
  | .failure _ => false

/-- The value of a run that matched. -/
def value? : Outcome → Option Value
  | .success value _ => some value
  | .failure _ => none

/-- The offset that a run reached which matched. -/
def stop? : Outcome → Option Nat
  | .success _ stop => some stop
  | .failure _ => none

/-- The failure of a run that did not match. -/
def failure? : Outcome → Option Failure
  | .success _ _ => none
  | .failure reason => some reason

end Outcome

end ParserGraph
