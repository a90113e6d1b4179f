import PhasePortrait.Field.Arrow
import PhasePortrait.Field.Basic
import PhasePortrait.Flow.Trajectory

/-! # Fields that answer alike

Steps, trajectories and arrows are computed in the monad of the field they ask. A simulation relates
the computations of two monads; where it relates the answers of two fields at every point, it relates
whatever is computed from the answers in the same way.
-/
namespace PhasePortrait

/-- A relation between the computations of two monads that sequencing respects. -/
structure Simulation (m n : Type → Type) [Monad m] [Monad n] where
  related {γ : Type} : m γ → n γ → Prop
  related_pure {γ : Type} (v : γ) : related (pure v) (pure v)
  related_bind {γ δ : Type} {x : m γ} {y : n γ} {f : γ → m δ} {g : γ → n δ} :
    related x y → (∀ v, related (f v) (g v)) → related (x >>= f) (y >>= g)

namespace Simulation
variable {m n : Type → Type} [Monad m] [Monad n] (R : Simulation m n) {γ δ : Type}

/-! ## Lists of answers -/

section
variable [LawfulMonad m] [LawfulMonad n]

theorem related_mapM {f : γ → m δ} {g : γ → n δ} (h : ∀ v, R.related (f v) (g v)) (vs : List γ) :
    R.related (vs.mapM f) (vs.mapM g) := by
  induction vs with
  | nil => exact R.related_pure []
  | cons v vs ih =>
    rw [List.mapM_cons, List.mapM_cons]
    refine R.related_bind (h v) fun w => ?_
    refine R.related_bind ih fun ws => ?_
    exact R.related_pure (w :: ws)

theorem related_ofFnM {k : Nat} {f : Fin k → m γ} {g : Fin k → n γ} (h : ∀ i, R.related (f i) (g i)) :
    R.related (List.ofFnM f) (List.ofFnM g) := by
  induction k with
  | zero =>
    rw [List.ofFnM_zero, List.ofFnM_zero]
    exact R.related_pure []
  | succ k ih =>
    rw [List.ofFnM_succ, List.ofFnM_succ]
    refine R.related_bind (h 0) fun v => ?_
    refine R.related_bind (ih fun i => h i.succ) fun vs => ?_
    exact R.related_pure (v :: vs)

end

/-! ## Steps, trajectories and arrows -/

section
variable {α : Type} [Add α] [Mul α] [Div α] [OfScientific α] [OfNat α 2] [OfNat α 6]
variable {f : Point α → m (Point α)} {g : Point α → n (Point α)} (h : ∀ p, R.related (f p) (g p))
include h

theorem related_rungeKutta (s : Point α) (dt : α) : R.related (rungeKutta f s dt) (rungeKutta g s dt) := by
  refine R.related_bind (h s) fun k₁ => ?_
  refine R.related_bind (h _) fun k₂ => ?_
  refine R.related_bind (h _) fun k₃ => ?_
  refine R.related_bind (h _) fun k₄ => ?_
  exact R.related_pure _

theorem related_march (dt : α) (steps : Nat) (s : Point α) (seen : List (Point α)) :
    R.related (march f dt steps s seen) (march g dt steps s seen) := by
  induction steps generalizing s seen with
  | zero => exact R.related_pure seen
  | succ steps ih => exact R.related_bind (R.related_rungeKutta h s dt) fun t => ih t (t :: seen)

theorem related_trace [Neg α] (initial : Point α) (dt : α) (halfSteps : Nat) :
    R.related (trace f initial dt halfSteps) (trace g initial dt halfSteps) := by
  refine R.related_bind (R.related_march h (-dt) halfSteps initial []) fun past => ?_
  refine R.related_bind (R.related_march h dt halfSteps initial []) fun future => ?_
  exact R.related_pure (past ++ future.reverse)

end

theorem related_sampleArrows [LawfulMonad m] [LawfulMonad n] {f : Point Float → m (Point Float)}
    {g : Point Float → n (Point Float)} (h : ∀ p, R.related (f p) (g p)) (b : Bounds Float) (grid : Grid)
    (length : Float) : R.related (sampleArrows f b grid length) (sampleArrows g b grid length) := by
  refine R.related_ofFnM fun k => ?_
  refine R.related_bind (h _) fun velocity => ?_
  exact R.related_pure _

/-! ## Computations that certainly give a value -/

/-- A computation that does not fail and gives the value, whatever state it starts from. -/
def answering (σ : Type) : Simulation (Asking σ) Id where
  related x v := ∀ s, ∃ s', x.run.run s = (.ok (Id.run v), s')
  related_pure v s := ⟨s, rfl⟩
  related_bind := by
    intro γ δ x v f g hx hf s
    obtain ⟨s₁, hs₁⟩ := hx s
    obtain ⟨s₂, hs₂⟩ := hf (Id.run v) s₁
    refine ⟨s₂, ?_⟩
    rw [ExceptT.run_bind, StateT.run_bind, hs₁]
    exact hs₂

/-- A computation without a state that gives the value. -/
def succeeding (ε : Type) : Simulation (Except ε) Id where
  related x v := x = .ok (Id.run v)
  related_pure v := rfl
  related_bind := by
    intro γ δ x v f g hx hf
    rw [hx]
    exact hf (Id.run v)

end Simulation

/-! ## The length of a trajectory -/

section
variable {α : Type} [Add α] [Mul α] [Div α] [Neg α] [OfScientific α] [OfNat α 2] [OfNat α 6]

omit [Neg α] in
theorem length_march (field : Point α → Id (Point α)) (dt : α) (steps : Nat) (s : Point α)
    (seen : List (Point α)) : (Id.run (march field dt steps s seen)).length = steps + seen.length := by
  induction steps generalizing s seen with
  | zero => simp [march]
  | succ steps ih =>
    rw [march, Id.run_bind, ih, List.length_cons]
    omega

theorem length_trace (field : Point α → Id (Point α)) (initial : Point α) (dt : α) (halfSteps : Nat) :
    (Id.run (trace field initial dt halfSteps)).length = 2 * halfSteps := by
  simp only [trace, Id.run_bind, Id.run_pure, List.length_append, List.length_reverse, length_march,
    List.length_nil]
  omega

end

end PhasePortrait
