import PhasePortrait.Formula.Error
import PhasePortrait.Settings.Basic
import PhasePortrait.Text.Quoted

/-! # Events

What an operation on a portrait reports besides its result.
-/
namespace PhasePortrait

inductive Level
  | debug
  | info
  | warn
  deriving DecidableEq, Repr

inductive Event
  | rejected (dx dy : String) (e : FormulaError)
  /-- New formulas, and how many trajectories were traced again. -/
  | applied (dx dy : String) (count : Nat)
  /-- The oldest trajectories left out by a smaller limit. -/
  | dropped (count : Nat) (limit : UInt64)
  | configured (s : Settings)
  /-- The oldest trajectory gave way to a new one. -/
  | evicted (initial : Point Float)
  | traced (states : Nat) (initial : Point Float)
  deriving DecidableEq, Repr

namespace Event
open Decimal Text

def level : Event → Level
  | rejected .. | dropped .. | evicted .. => .warn
  | applied .. | traced .. => .debug
  | configured _ => .info

def pointText (p : Point Float) : String :=
  "(" ++ Style.plain.write p.x ++ ", " ++ Style.plain.write p.y ++ ")"

def boundsText (b : Bounds Float) : String :=
  "Bounds \x7b min_x: " ++ Style.precise.write b.minX ++ ", min_y: " ++ Style.precise.write b.minY ++
    ", max_x: " ++ Style.precise.write b.maxX ++ ", max_y: " ++ Style.precise.write b.maxY ++ " \x7d"

def message : Event → String
  | rejected dx dy e =>
    "Rejected formula edit (" ++ quoted dx ++ ", " ++ quoted dy ++ ") at position " ++
      toString e.position ++ ": " ++ e.message
  | applied dx dy count =>
    "Applied formulas dx/dt = " ++ dx ++ ", dy/dt = " ++ dy ++ "; retraced " ++ toString count ++ " trajectories"
  | dropped count limit =>
    "Dropping " ++ toString count ++ " trajectories to fit max_trajectories = " ++ toString limit
  | configured s =>
    "Plane configuration updated: bounds " ++ boundsText s.bounds ++ ", grid " ++ toString s.grid.rows ++ "x" ++
      toString s.grid.cols ++ ", dt " ++ Style.plain.write s.timeStep ++ ", half_steps " ++ toString s.halfSteps
  | evicted p => "Evicting trajectory from " ++ pointText p
  | traced states p => "Traced " ++ toString states ++ " states through " ++ pointText p

end Event
end PhasePortrait
