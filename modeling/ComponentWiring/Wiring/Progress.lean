/-
ComponentWiring.Wiring.Progress — how far a tier has come in a run.

* `Stage` — the stages of a tier, in order.
* `Progress.advance` — moves to the next stage, and to no other.
* `Progress.require` — holds from a stage on.
-/
import ComponentWiring.Report.Event
import ComponentWiring.Report.Failure

namespace ComponentWiring

/-- The stages of a tier. -/
inductive Stage
  | start
  | containersDiscovered
  | presentersDiscovered
  | componentsEmitted
  | done
deriving DecidableEq, Inhabited

namespace Stage

/-- All stages, in order. -/
def all : List Stage :=
  [.start, .containersDiscovered, .presentersDiscovered, .componentsEmitted, .done]

/-- The stage as messages name it. -/
def name : Stage → String
  | .start => "Start"
  | .containersDiscovered => "ContainersDiscovered"
  | .presentersDiscovered => "PresentersDiscovered"
  | .componentsEmitted => "ComponentsEmitted"
  | .done => "Done"

/-- The number of stages before it. -/
def rank : Stage → Nat
  | .start => 0
  | .containersDiscovered => 1
  | .presentersDiscovered => 2
  | .componentsEmitted => 3
  | .done => 4

/-- The stage that follows. -/
def next? : Stage → Option Stage
  | .start => some .containersDiscovered
  | .containersDiscovered => some .presentersDiscovered
  | .presentersDiscovered => some .componentsEmitted
  | .componentsEmitted => some .done
  | .done => none

end Stage

/-- How far a tier has come. -/
structure Progress where
  tier : Tier
  stage : Stage := .start
deriving DecidableEq, Inhabited

/-- Why a tier is out of turn. -/
inductive ProgressFault
  /-- The stage does not follow the one the tier is at. -/
  | outOfOrder (tier : Tier) (source target : Stage)
  /-- The tier has not come far enough. -/
  | tooEarly (tier : Tier) (reached expected : Stage)
deriving DecidableEq

/-- The fault as a failure of the run. -/
def ProgressFault.toFailure : ProgressFault → Failure
  | .outOfOrder tier source target =>
    .state (tier.name ++ " tier cannot move from " ++ source.name ++ " to " ++ target.name)
  | .tooEarly tier reached expected =>
    .state (tier.name ++ " tier is at " ++ reached.name ++ ", expected " ++ expected.name)

namespace Progress

/-- Moves to the stage that follows. -/
def advance (p : Progress) (target : Stage) : Except Failure Progress :=
  if p.stage.next? = some target then .ok { p with stage := target }
  else .error (ProgressFault.outOfOrder p.tier p.stage target).toFailure

/-- Fails unless the tier has reached the stage. -/
def require (p : Progress) (expected : Stage) : Except Failure Unit :=
  if p.stage.rank < expected.rank then
    .error (ProgressFault.tooEarly p.tier p.stage expected).toFailure
  else .ok ()

end Progress

end ComponentWiring
