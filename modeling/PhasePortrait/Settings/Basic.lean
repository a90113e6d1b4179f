import PhasePortrait.Plane.Grid

/-! # Settings of a portrait

What part of the plane is shown, how densely the direction field is sampled and how trajectories
are traced.
-/
namespace PhasePortrait

structure Settings where
  bounds : Bounds Float
  grid : Grid
  arrowLength : Float
  timeStep : Float
  /-- Steps traced in each direction of time. -/
  halfSteps : UInt64
  maxTrajectories : UInt64
  deriving DecidableEq, Repr

inductive SettingsError
  | bounds (e : BoundsError)
  | grid (e : GridError)
  | arrowLength
  | timeStep
  | noSteps
  | tooManySteps (n : UInt64)
  | noTrajectories
  | tooManyTrajectories (n : UInt64)
  deriving DecidableEq, Repr

namespace Settings

def maxHalfSteps : Nat := 100000

def trajectoryLimit : Nat := 100

def standard : Settings := ⟨.standard, .standard, 0.25, 0.01, 800, 20⟩

/-- Accepts usable settings; of several faults the first in the order of the fields is reported. -/
def check (s : Settings) : Except SettingsError Unit :=
  match s.bounds.check, s.grid.check with
  | .error e, _ => .error (.bounds e)
  | .ok (), .error e => .error (.grid e)
  | .ok (), .ok () =>
    if !s.arrowLength.isFinite || s.arrowLength ≤ 0 then .error .arrowLength
    else if !s.timeStep.isFinite || s.timeStep == 0 then .error .timeStep
    else if s.halfSteps = 0 then .error .noSteps
    else if s.halfSteps.toNat > maxHalfSteps then .error (.tooManySteps s.halfSteps)
    else if s.maxTrajectories = 0 then .error .noTrajectories
    else if s.maxTrajectories.toNat > trajectoryLimit then .error (.tooManyTrajectories s.maxTrajectories)
    else .ok ()

end Settings

namespace SettingsError

def message : SettingsError → String
  | bounds e => e.message
  | grid e => e.message
  | arrowLength => "Arrow length must be positive and finite."
  | timeStep => "Time step must be finite and non-zero."
  | noSteps => "Trajectories need at least one step in each direction."
  | tooManySteps n =>
    "half_steps (" ++ toString n ++ ") exceeds the limit of " ++ toString Settings.maxHalfSteps ++ "."
  | noTrajectories => "max_trajectories must be at least 1."
  | tooManyTrajectories n =>
    "max_trajectories (" ++ toString n ++ ") exceeds the limit of " ++ toString Settings.trajectoryLimit ++ "."

end SettingsError
end PhasePortrait
