import PhasePortrait.Plane.Grid

/-! # Direction arrows

The direction field on a grid: at every node an arrow of fixed length along the velocity.
-/
namespace PhasePortrait

structure Arrow where
  origin : Point Float
  direction : Point Float
  deriving DecidableEq, Repr

/-- The vector of the given length along a velocity: each component is divided by the root of the
sum of squares, then multiplied by the length. -/
def direction (velocity : Point Float) (length : Float) : Point Float :=
  let norm := Float.sqrt (velocity.x * velocity.x + velocity.y * velocity.y)
  (⟨velocity.x / norm, velocity.y / norm⟩ : Point Float) * length

variable {m : Type → Type} [Monad m]

/-- Asks the field at every node of the grid, rows from the lowest, each from left to right. -/
@[specialize] def sampleArrows (field : Point Float → m (Point Float)) (b : Bounds Float) (g : Grid)
    (length : Float) : m (List Arrow) :=
  List.ofFnM fun k : Fin g.count => do
    let origin := g.nodeAt b k
    let velocity ← field origin
    return ⟨origin, direction velocity length⟩

end PhasePortrait
