import PhasePortrait.Proofs.StackMachine

/-! # Stacks that run out

A value that is missing from the stack is read as one that is no number. So code that runs out of values runs as it
does above a supply of such values that is large enough, and what it takes from the supply is what it has missed.
-/
namespace PhasePortrait
variable {α : Type} [Scalar α]

/-- The stack above `k` values that are no numbers. -/
def padded (k : Nat) (stack : List α) : List α := stack ++ List.replicate k Scalar.nan

omit [Scalar α] in
theorem missing_le (stack : List α) : missing stack ≤ 1 := by
  cases stack with
  | nil => exact Nat.le_refl 1
  | cons v rest => exact Nat.zero_le 1

/-- What the stack does not have is taken from the supply. -/
theorem pop_padded {stack : List α} {k : Nat} (h : missing stack ≤ k) :
    pop (padded k stack) = ((pop stack).1, padded (k - missing stack) (pop stack).2) ∧ missing (padded k stack) = 0 := by
  cases stack with
  | nil =>
    obtain ⟨n, rfl⟩ : ∃ n, k = n + 1 := Nat.exists_eq_add_of_le' h
    exact ⟨rfl, rfl⟩
  | cons v rest => exact ⟨rfl, rfl⟩

namespace Instruction

theorem misses_le (i : Instruction) (stack : List α) : i.misses stack ≤ 2 := by
  cases i with
  | load value => exact Nat.zero_le 2
  | fetch v => exact Nat.zero_le 2
  | apply op => exact Nat.add_le_add (missing_le stack) (missing_le (pop stack).2)
  | negate => exact Nat.le_succ_of_le (missing_le stack)

theorem run_padded {i : Instruction} {stack : List α} {k : Nat} (h : i.misses stack ≤ k) (state : Point α) :
    i.run state (padded k stack) = padded (k - i.misses stack) (i.run state stack) ∧ i.misses (padded k stack) = 0 := by
  cases i with
  | load value => exact ⟨rfl, rfl⟩
  | fetch v => exact ⟨rfl, rfl⟩
  | apply op =>
    rw [misses] at h
    obtain ⟨hright, hright'⟩ := pop_padded (Nat.le_of_add_right_le h)
    obtain ⟨hleft, hleft'⟩ := pop_padded (Nat.le_sub_of_add_le' h)
    rw [run, misses, misses, hright, hleft, hright', hleft', Nat.sub_sub]
    exact ⟨rfl, rfl⟩
  | negate =>
    obtain ⟨htop, htop'⟩ := pop_padded h
    rw [run, misses, misses, htop, htop']
    exact ⟨rfl, rfl⟩

end Instruction

namespace Code

theorem misses_le (code : Code) (state : Point α) (stack : List α) : misses state code stack ≤ 2 * code.length := by
  induction code generalizing stack with
  | nil => exact Nat.le_refl 0
  | cons i code ih =>
    have hi := i.misses_le stack
    have hc := ih (i.run state stack)
    rw [misses, List.length_cons]
    omega

theorem missesOfExecute_le (code : Code) (state : Point α) : code.missesOfExecute state ≤ 2 * code.length + 1 :=
  Nat.add_le_add (code.misses_le state []) (missing_le _)

/-- The supply becomes smaller by what is missing, instruction by instruction. -/
theorem run_padded {code : Code} {state : Point α} {stack : List α} {k : Nat} (h : misses state code stack ≤ k) :
    code.run state (padded k stack) = padded (k - misses state code stack) (code.run state stack) ∧
      misses state code (padded k stack) = 0 := by
  induction code generalizing stack k with
  | nil => exact ⟨rfl, rfl⟩
  | cons i code ih =>
    rw [misses] at h
    obtain ⟨hrun, hmisses⟩ := Instruction.run_padded (Nat.le_of_add_right_le h) state
    obtain ⟨ihrun, ihmisses⟩ := ih (Nat.le_sub_of_add_le' h)
    rw [run_cons, run_cons, misses, misses, hrun, hmisses, ihrun, ihmisses, Nat.sub_sub]
    exact ⟨rfl, rfl⟩

end Code

/-- What the execution of code gives does not depend on the stack before it. It misses at most two values for each
instruction and one for the result, and run above a supply that covers these it gives the same value and the same
stack, with what has not been taken from the supply below, and misses nothing. -/
theorem execute_padded (code : Code) (state : Point α) :
    (∀ stack stack', (code.execute state).run stack = (code.execute state).run stack') ∧
    code.missesOfExecute state ≤ 2 * code.length + 1 ∧
    ∀ stack k, code.missesOfExecute state ≤ k →
      let executed := (code.execute state).run stack
      let supplied := code.run state (List.replicate k Scalar.nan)
      pop supplied = (executed.1, executed.2 ++ List.replicate (k - code.missesOfExecute state) Scalar.nan) ∧
        Code.misses state code (List.replicate k Scalar.nan) + missing supplied = 0 := by
  refine ⟨fun _ _ => rfl, code.missesOfExecute_le state, ?_⟩
  intro stack k h executed supplied
  rw [Code.missesOfExecute] at h
  obtain ⟨hrun, hmisses⟩ := Code.run_padded (Nat.le_of_add_right_le h)
  obtain ⟨hpop, hpop'⟩ := pop_padded (Nat.le_sub_of_add_le' h)
  have hsupplied : supplied = padded (k - Code.misses state code []) (code.run state []) := hrun
  have hnone : Code.misses state code (List.replicate k Scalar.nan) = 0 := hmisses
  rw [hsupplied, hnone, hpop, hpop', Nat.sub_sub]
  exact ⟨rfl, rfl⟩

/-- The second value of the sum is missing; six of seven values are left of the supply, below the sum. -/
theorem execute_padded_sum :
    let code : Code := [.load 1, .apply .add, .load 2]
    let state : Point Float := ⟨3, 5⟩
    code.missesOfExecute state = 1 ∧ 1 ≤ 7 ∧
    (code.execute state).run [8, 9] = (2, [Scalar.nan]) ∧
    pop (code.run state (List.replicate 7 Scalar.nan)) = (2, Scalar.nan :: List.replicate 6 Scalar.nan) := by
  intro code state
  have hmisses : code.missesOfExecute state = 1 := by decide +kernel
  have hexecute : (code.execute state).run [8, 9] = (2, [Scalar.nan]) := by
    change pop (code.run state []) = _
    decide +kernel
  obtain ⟨-, -, hsupply⟩ := execute_padded code state
  have hpop := (hsupply [8, 9] 7 (by rw [hmisses]; decide)).1
  rw [hexecute, hmisses] at hpop
  exact ⟨hmisses, by decide, hexecute, hpop⟩

end PhasePortrait
