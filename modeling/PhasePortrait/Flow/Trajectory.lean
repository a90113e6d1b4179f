import PhasePortrait.Flow.RungeKutta

/-! # Trajectories

The solution curve through a point, followed in both directions of time.
-/
namespace PhasePortrait
variable {m : Type → Type} [Monad m] {α : Type}
variable [Add α] [Mul α] [Div α] [Neg α] [OfScientific α] [OfNat α 2] [OfNat α 6]

/-- The states after one to `n` steps from `s`, the last one first, in front of `seen`. -/
@[specialize] def march (field : Point α → m (Point α)) (dt : α) :
    Nat → Point α → List (Point α) → m (List (Point α))
  | 0, _, seen => pure seen
  | n + 1, s, seen => do
    let t ← rungeKutta field s dt
    march field dt n t (t :: seen)

/-- `2 * halfSteps` states in the order of time: those before `initial`, then those after it.
`initial` itself is not among them. The past is computed first. -/
@[specialize] def trace (field : Point α → m (Point α)) (initial : Point α) (dt : α) (halfSteps : Nat) :
    m (List (Point α)) := do
  let past ← march field (-dt) halfSteps initial []
  let future ← march field dt halfSteps initial []
  return past ++ future.reverse

end PhasePortrait
