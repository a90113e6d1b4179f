import Mathlib.Analysis.SpecialFunctions.Integrals.Basic
import Mathlib.LinearAlgebra.Matrix.Notation
import PhasePortrait.Flow.Trajectory

/-! # Steps that are exact

Over the rational numbers a step along an affine field is the expansion of its flow to the fourth degree, and
a step along a field whose second coordinate is a cubic polynomial in the first one is the area under the
polynomial. Along a constant field every state is on the line through the initial point.
-/
namespace PhasePortrait

namespace Point

/-- The image of a vector under the map with this matrix. -/
def transform (A : Matrix (Fin 2) (Fin 2) ℚ) (p : Point ℚ) : Point ℚ :=
  ⟨A 0 0 * p.x + A 0 1 * p.y, A 1 0 * p.x + A 1 1 * p.y⟩

theorem transform_add_mul (A : Matrix (Fin 2) (Fin 2) ℚ) (p k : Point ℚ) (c : ℚ) :
    transform A (p + k * c) = transform A p + transform A k * c := by
  ext
  · simp only [transform, x_add, y_add, x_mul, y_mul]
    ring
  · simp only [transform, x_add, y_add, x_mul, y_mul]
    ring

theorem transform_mul (A B : Matrix (Fin 2) (Fin 2) ℚ) (p : Point ℚ) :
    transform (A * B) p = transform A (transform B p) := by
  ext
  · simp only [transform, Matrix.mul_apply, Fin.sum_univ_two]
    ring
  · simp only [transform, Matrix.mul_apply, Fin.sum_univ_two]
    ring

end Point

open Point
variable {m : Type → Type} [Monad m] [LawfulMonad m]

/-! ## Affine fields -/

theorem rungeKutta_affine (A : Matrix (Fin 2) (Fin 2) ℚ) (b v : Point ℚ) (dt : ℚ) :
    let f := fun q => transform A q + b
    rungeKutta (fun q => (pure (f q) : m (Point ℚ))) v dt =
      pure (v + f v * dt + transform A (f v) * (dt ^ 2 / 2) + transform (A ^ 2) (f v) * (dt ^ 3 / 6) +
        transform (A ^ 3) (f v) * (dt ^ 4 / 24)) := by
  intro f
  have hf (k : Point ℚ) (c : ℚ) : f (v + k * c) = f v + transform A k * c := by
    ext <;> simp only [f, transform_add_mul, x_add, y_add] <;> ring
  have hsquare (k : Point ℚ) : transform (A ^ 2) k = transform A (transform A k) := by
    rw [pow_two, transform_mul]
  have hcube (k : Point ℚ) : transform (A ^ 3) k = transform A (transform A (transform A k)) := by
    rw [pow_succ', transform_mul, hsquare]
  simp only [rungeKutta, pure_bind, hf, transform_add_mul, hsquare, hcube]
  congr 1
  ext
  · simp only [x_add, x_mul]
    ring
  · simp only [y_add, y_mul]
    ring

/-! ## Polynomials -/

/-- The rule of Simpson. -/
theorem integral_cubic {p : Polynomial ℚ} (hp : p.natDegree ≤ 3) (x dt : ℚ) :
    ∫ t in (x : ℝ)..((x + dt : ℚ) : ℝ), p.aeval t =
      (((p.eval x + 4 * p.eval (x + 0.5 * dt) + p.eval (x + dt)) * (dt / 6) : ℚ) : ℝ) := by
  have hdegree : p.natDegree < 4 := Nat.lt_succ_of_le hp
  have hcontinuous (i : ℕ) : Continuous fun t : ℝ => p.coeff i • t ^ i := by fun_prop
  have hpower (i : ℕ) : ∫ t in (x : ℝ)..((x + dt : ℚ) : ℝ), p.coeff i • t ^ i =
      p.coeff i * ((((x + dt : ℚ) : ℝ) ^ (i + 1) - (x : ℝ) ^ (i + 1)) / (i + 1)) := by
    simp only [Rat.smul_def, intervalIntegral.integral_const_mul, integral_pow]
  simp only [Polynomial.aeval_eq_sum_range' hdegree, Polynomial.eval_eq_sum_range' hdegree]
  rw [intervalIntegral.integral_finsetSum fun i _ => (hcontinuous i).intervalIntegrable ..]
  simp only [hpower, Finset.sum_range_succ, Finset.sum_range_zero]
  push_cast
  ring

theorem rungeKutta_cubic {p : Polynomial ℚ} (hp : p.natDegree ≤ 3) (s : Point ℚ) (dt : ℚ) :
    ∃ y, rungeKutta (fun q => (pure ⟨1, p.eval q.x⟩ : m (Point ℚ))) s dt = pure ⟨s.x + dt, y⟩ ∧
      (y : ℝ) = s.y + ∫ t in (s.x : ℝ)..((s.x + dt : ℚ) : ℝ), p.aeval t := by
  refine ⟨s.y + (p.eval s.x + 4 * p.eval (s.x + 0.5 * dt) + p.eval (s.x + dt)) * (dt / 6), ?_, ?_⟩
  · simp only [rungeKutta, pure_bind, x_add, x_mul, one_mul]
    congr 1
    ext
    · simp only [x_add, x_mul]
      ring
    · simp only [y_add, y_mul]
      ring
  · rw [integral_cubic hp, Rat.cast_add]

/-! ## Constant fields -/

/-- The times of the stored states, from the earliest to the latest. -/
def storedTimes (dt : ℚ) (halfSteps : ℕ) : List ℚ :=
  ((List.range halfSteps).map fun i : ℕ => -((i + 1 : ℚ) * dt)).reverse ++
    (List.range halfSteps).map fun i : ℕ => (i + 1 : ℚ) * dt

theorem rungeKutta_constant (f s : Point ℚ) (dt : ℚ) :
    rungeKutta (fun _ => (pure f : m (Point ℚ))) s dt = pure (s + f * dt) := by
  simp only [rungeKutta, pure_bind]
  congr 1
  ext
  · simp only [x_add, x_mul]
    ring
  · simp only [y_add, y_mul]
    ring

theorem march_constant (f s : Point ℚ) (dt : ℚ) (steps : ℕ) (seen : List (Point ℚ)) :
    march (fun _ => (pure f : m (Point ℚ))) dt steps s seen =
      pure (((List.range steps).map fun i : ℕ => s + f * ((i + 1 : ℚ) * dt)).reverse ++ seen) := by
  induction steps generalizing s seen with
  | zero => rfl
  | succ steps ih =>
    have hfirst : s + f * (((0 : ℕ) + 1 : ℚ) * dt) = s + f * dt := by rw [Nat.cast_zero, zero_add, one_mul]
    have hlater (i : ℕ) : s + f * dt + f * ((i + 1 : ℚ) * dt) = s + f * (((i + 1 : ℕ) + 1 : ℚ) * dt) := by
      ext
      · simp only [x_add, x_mul]
        push_cast
        ring
      · simp only [y_add, y_mul]
        push_cast
        ring
    rw [march, rungeKutta_constant, pure_bind, ih, List.range_succ_eq_map, List.map_cons, hfirst, List.map_map,
      List.reverse_cons, List.append_assoc]
    simp only [hlater]
    rfl

theorem trace_constant (f initial : Point ℚ) (dt : ℚ) (halfSteps : ℕ) :
    trace (fun _ => (pure f : m (Point ℚ))) initial dt halfSteps =
      pure ((storedTimes dt halfSteps).map fun t => initial + f * t) := by
  simp only [trace, march_constant, pure_bind, storedTimes, List.append_nil, List.reverse_reverse, List.map_append,
    List.map_reverse, List.map_map, mul_neg]
  rfl

/-- A step along an affine field `A v + b` is the expansion of the flow to the fourth degree in the time. A step
along a field with the first coordinate 1 and a polynomial of degree three or less for the second one adds the
integral of the polynomial. A trajectory of a constant field stores the points of the line through the initial
point at the multiples of the time step but 0, in the order of time. All of this holds in whatever monad the
field is asked. -/
theorem steps_exact (m : Type → Type) [Monad m] [LawfulMonad m] :
    (∀ (A : Matrix (Fin 2) (Fin 2) ℚ) (b v : Point ℚ) (dt : ℚ),
      let f := fun q => Point.transform A q + b
      rungeKutta (fun q => (pure (f q) : m (Point ℚ))) v dt =
        pure (v + f v * dt + Point.transform A (f v) * (dt ^ 2 / 2) +
          Point.transform (A ^ 2) (f v) * (dt ^ 3 / 6) + Point.transform (A ^ 3) (f v) * (dt ^ 4 / 24))) ∧
    (∀ p : Polynomial ℚ, p.natDegree ≤ 3 → ∀ (s : Point ℚ) (dt : ℚ), ∃ y,
      rungeKutta (fun q => (pure ⟨1, p.eval q.x⟩ : m (Point ℚ))) s dt = pure ⟨s.x + dt, y⟩ ∧
        (y : ℝ) = s.y + ∫ t in (s.x : ℝ)..((s.x + dt : ℚ) : ℝ), p.aeval t) ∧
    ∀ (f initial : Point ℚ) (dt : ℚ) (halfSteps : ℕ),
      trace (fun _ => (pure f : m (Point ℚ))) initial dt halfSteps =
        pure ((storedTimes dt halfSteps).map fun t => initial + f * t) :=
  ⟨rungeKutta_affine, fun _ hp => rungeKutta_cubic hp, trace_constant⟩

/-- A long step of the rotation, one under the cube of `x`, and two steps in each direction along a line. -/
theorem steps_exact_cube :
    rungeKutta (fun q => (pure ⟨q.y, -q.x⟩ : Option (Point ℚ))) ⟨1, 0⟩ 2 = some ⟨-1 / 3, -2 / 3⟩ ∧
    (Polynomial.X ^ 3 : Polynomial ℚ).natDegree ≤ 3 ∧
    rungeKutta (fun q => (pure ⟨1, q.x ^ 3⟩ : Option (Point ℚ))) ⟨1, 0⟩ 2 = some ⟨3, 20⟩ ∧
    ((20 : ℚ) : ℝ) = (0 : ℚ) + ∫ t in ((1 : ℚ) : ℝ)..((1 + 2 : ℚ) : ℝ), (Polynomial.X ^ 3 : Polynomial ℚ).aeval t ∧
    trace (fun _ => (pure ⟨1, 2⟩ : Option (Point ℚ))) ⟨0, 1⟩ 3 2 =
      some [⟨-6, -11⟩, ⟨-3, -5⟩, ⟨3, 7⟩, ⟨6, 13⟩] := by
  obtain ⟨haffine, hcubic, htrace⟩ := steps_exact Option
  have hdegree : (Polynomial.X ^ 3 : Polynomial ℚ).natDegree ≤ 3 := (Polynomial.natDegree_X_pow 3).le
  have hturn := haffine !![0, 1; -1, 0] ⟨0, 0⟩ ⟨1, 0⟩ 2
  have hfield (q : Point ℚ) : Point.transform !![0, 1; -1, 0] q + ⟨0, 0⟩ = ⟨q.y, -q.x⟩ := by
    ext <;> simp [Point.transform]
  simp only [hfield] at hturn
  obtain ⟨y, hstep, hy⟩ := hcubic _ hdegree ⟨1, 0⟩ 2
  have hcube : rungeKutta (fun q => (pure ⟨1, q.x ^ 3⟩ : Option (Point ℚ))) ⟨1, 0⟩ 2 = some ⟨3, 20⟩ := by
    decide +kernel
  refine ⟨hturn.trans ?_, hdegree, hcube, ?_, (htrace ⟨1, 2⟩ ⟨0, 1⟩ 3 2).trans (by decide +kernel)⟩
  · decide +kernel
  · simp only [Polynomial.eval_pow, Polynomial.eval_X] at hstep
    have hvalue : 20 = y := congrArg Point.y (Option.some.inj (hcube.symm.trans hstep))
    rw [hvalue]
    exact hy

end PhasePortrait
