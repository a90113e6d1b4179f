import PhasePortrait.Plane.Point

/-! # The classical Runge-Kutta step

One step of fourth order for an autonomous planar system. The field is asked through a monad, so it
may fail or keep a state; it is asked four times, in the order of the stages.
-/
namespace PhasePortrait
variable {m : Type → Type} [Monad m] {α : Type}
variable [Add α] [Mul α] [Div α] [OfScientific α] [OfNat α 2] [OfNat α 6]

/-- The state reached from `s` after the time `dt`. -/
@[specialize] def rungeKutta (field : Point α → m (Point α)) (s : Point α) (dt : α) : m (Point α) := do
  let half := 0.5 * dt
  let k₁ ← field s
  let k₂ ← field (s + k₁ * half)
  let k₃ ← field (s + k₂ * half)
  let k₄ ← field (s + k₃ * dt)
  return s + (k₁ + k₂ * (2 : α) + k₃ * (2 : α) + k₄) * (dt / 6)

end PhasePortrait
