import PhasePortrait.Field.Arrow
import PhasePortrait.Field.Formulas
import PhasePortrait.Flow.Trajectory
import PhasePortrait.Plane.View
import PhasePortrait.Portrait.Event

/-! # Phase portraits

A portrait is the direction field of two formulas over a rectangle together with the trajectories
traced through points of it. An operation gives a result, the portrait after it and the events on
the way, oldest first; one that fails leaves the portrait as it was.
-/
namespace PhasePortrait

/-- The states of a solution curve and the point it was traced from. -/
structure Trajectory where
  initial : Point Float
  states : List (Point Float)
  deriving DecidableEq, Repr

structure Portrait where
  settings : Settings
  formulas : FormulaPair
  code : CodePair
  /-- Oldest first. -/
  trajectories : List Trajectory
  deriving DecidableEq, Repr

inductive PortraitError
  | invalidSettings (e : SettingsError)
  | invalidFormulas (e : FormulaError)
  | emptyWindow (width height : Float)
  | fieldFailed (e : FormulaError)
  deriving DecidableEq, Repr

namespace PortraitError
open Decimal

def message : PortraitError → String
  | invalidSettings e => "Invalid plane configuration: " ++ e.message
  | invalidFormulas e => "Invalid formulas: " ++ e.message
  | emptyWindow w h =>
    "Window size must be positive (got " ++ Style.plain.write w ++ "x" ++ Style.plain.write h ++ ")."
  | fieldFailed e => e.message

def cause? : PortraitError → Option FormulaError
  | invalidFormulas e | fieldFailed e => some e
  | invalidSettings _ | emptyWindow .. => none

end PortraitError

structure Outcome (ε α : Type) where
  result : Except ε α
  portrait : Portrait
  events : List Event

namespace CodePair

/-- Runs what asks the field of the code, from an empty stack. -/
def answer {α : Type} (ask : Asking (List Float) α) : Except FormulaError α := (Id.run (ask.run.run [])).1

def traceFrom (c : CodePair) (s : Settings) (initial : Point Float) : Asking (List Float) Trajectory := do
  let states ← trace c.field initial s.timeStep s.halfSteps.toNat
  return ⟨initial, states⟩

def traceAll (c : CodePair) (s : Settings) (initials : List (Point Float)) :
    Except FormulaError (List Trajectory) :=
  answer (initials.mapM (c.traceFrom s))

end CodePair

namespace Portrait

/-- A portrait without trajectories. Faulty settings are reported before faulty formulas. -/
def create (s : Settings) (dx dy : String) : Except PortraitError Portrait := do
  s.check.mapError .invalidSettings
  let f ← (FormulaPair.ofTexts dx dy).mapError .invalidFormulas
  return ⟨s, f, f.compile, []⟩

def ofSettings (s : Settings) : Except PortraitError Portrait :=
  create s FormulaPair.standardDx FormulaPair.standardDy

def initials (p : Portrait) : List (Point Float) := p.trajectories.map Trajectory.initial

/-- Replaces both formulas and traces every trajectory again. -/
def applyFormulas (p : Portrait) (dx dy : String) : Outcome FormulaError Unit :=
  match FormulaPair.ofTexts dx dy with
  | .error e => ⟨.error e, p, [.rejected dx dy e]⟩
  | .ok f =>
    match f.compile.traceAll p.settings p.initials with
    | .error e => ⟨.error e, p, []⟩
    | .ok ts =>
      ⟨.ok (), { p with formulas := f, code := f.compile, trajectories := ts },
        [.applied f.dx.text f.dy.text ts.length]⟩

/-- Replaces the settings and traces the newest trajectories again, as many as the limit allows. -/
def configure (p : Portrait) (s : Settings) : Outcome PortraitError Unit :=
  match s.check with
  | .error e => ⟨.error (.invalidSettings e), p, []⟩
  | .ok () =>
    let excess := p.trajectories.length - s.maxTrajectories.toNat
    let notice : List Event := if 0 < excess then [.dropped excess s.maxTrajectories] else []
    match p.code.traceAll s (p.initials.drop excess) with
    | .error e => ⟨.error (.fieldFailed e), p, notice⟩
    | .ok ts => ⟨.ok (), { p with settings := s, trajectories := ts }, notice ++ [.configured s]⟩

/-- Traces a trajectory through a point. The oldest ones give way where the limit is reached; the
result is the index of the new one. -/
def add (p : Portrait) (initial : Point Float) : Outcome FormulaError Nat :=
  match CodePair.answer (p.code.traceFrom p.settings initial) with
  | .error e => ⟨.error e, p, []⟩
  | .ok t =>
    let excess := p.trajectories.length + 1 - p.settings.maxTrajectories.toNat
    let kept := p.trajectories.drop excess
    ⟨.ok kept.length, { p with trajectories := kept ++ [t] },
      (p.trajectories.take excess).map (fun t => .evicted t.initial) ++ [.traced t.states.length initial]⟩

def addAtPixel (p : Portrait) (px py width height : Float) : Outcome PortraitError Nat :=
  if 0 < width ∧ 0 < height then
    let o := p.add (p.settings.bounds.worldOfPixel px py width height)
    ⟨o.result.mapError .fieldFailed, o.portrait, o.events⟩
  else ⟨.error (.emptyWindow width height), p, []⟩

def clear (p : Portrait) : Portrait := { p with trajectories := [] }

def count (p : Portrait) : Nat := p.trajectories.length

def trajectory? (p : Portrait) (index : Nat) : Option Trajectory := p.trajectories[index]?

def arrows (p : Portrait) : Except FormulaError (List Arrow) :=
  CodePair.answer (sampleArrows p.code.field p.settings.bounds p.settings.grid p.settings.arrowLength)

end Portrait
end PhasePortrait
