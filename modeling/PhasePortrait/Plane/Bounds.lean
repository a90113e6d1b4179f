import PhasePortrait.Decimal.Style
import PhasePortrait.Plane.Point

/-! # The rectangle on display

An axis-parallel rectangle of the plane given by its lower left and upper right corners.
-/
namespace PhasePortrait

structure Bounds (α : Type) where
  minX : α
  minY : α
  maxX : α
  maxY : α
  deriving DecidableEq, Repr

namespace Bounds
variable {α : Type}

def width [Sub α] (b : Bounds α) : α := b.maxX - b.minX

def height [Sub α] (b : Bounds α) : α := b.maxY - b.minY

def center [Add α] [Mul α] [OfScientific α] (b : Bounds α) : Point α :=
  ⟨0.5 * (b.minX + b.maxX), 0.5 * (b.minY + b.maxY)⟩

/-- The square of side ten around the origin. -/
def standard : Bounds Float := ⟨-5, -5, 5, 5⟩

end Bounds

inductive BoundsError
  | notFinite
  | emptyX (least greatest : Float)
  | emptyY (least greatest : Float)
  deriving DecidableEq, Repr

namespace BoundsError
open Decimal

def message : BoundsError → String
  | notFinite => "Plane bounds must be finite."
  | emptyX a b =>
    "min_x (" ++ Style.plain.write a ++ ") must be less than max_x (" ++ Style.plain.write b ++ ")."
  | emptyY a b =>
    "min_y (" ++ Style.plain.write a ++ ") must be less than max_y (" ++ Style.plain.write b ++ ")."

end BoundsError

/-- Accepts finite corners in order; the horizontal extent is looked at first. -/
def Bounds.check (b : Bounds Float) : Except BoundsError Unit :=
  if [b.minX, b.minY, b.maxX, b.maxY].any fun v => !v.isFinite then .error .notFinite
  else if b.maxX ≤ b.minX then .error (.emptyX b.minX b.maxX)
  else if b.maxY ≤ b.minY then .error (.emptyY b.minY b.maxY)
  else .ok ()

end PhasePortrait
