import Mathlib.Logic.Function.Basic
import PhasePortrait.Field.Basic

/-! # Calls of a field

A field may answer every call differently and may fail at any of them. What a computation does with it is said
by the points of its calls, numbered from the first one on, and by what it makes of the answers: it returns that
if they are all given, and else ends with the first error, after which nothing more is asked.
-/
namespace PhasePortrait

/-- What a field says at a point when it is asked for the time with this number. -/
abbrev Answers := Nat → Point Float → Except FormulaError (Point Float)

/-- The first `n` calls, made at these points, are answered with the values `v`. -/
def Answered (answer : Answers) (points v : Nat → Point Float) (n : Nat) : Prop :=
  ∀ k < n, answer k (points k) = .ok (v k)

/-- Call number `k`, made at its point, is the first one that fails. -/
def FailsFirst (answer : Answers) (points v : Nat → Point Float) (k : Nat) (e : FormulaError) : Prop :=
  Answered answer points v k ∧ answer k (points k) = .error e

/-- A field with these answers that keeps a record of the points and counts the calls. -/
def recording (answer : Answers) : VectorField (Array (Point Float) × Nat) := (VectorField.numbered answer).observe

/-- The record after `n` calls. -/
def record (points : Nat → Point Float) (n : Nat) : Array (Point Float) × Nat :=
  (((List.range n).map points).toArray, n)

theorem record_succ (points : Nat → Point Float) (n : Nat) :
    record points (n + 1) = ((record points n).1.push (points n), n + 1) := by
  simp [record, List.range_succ]

/-- The computation makes the calls `n` to `n + l - 1`, at their points, and makes `c` of the answers. -/
structure Makes {γ : Type} (answer : Answers) (points v : Nat → Point Float) (n l : Nat)
    (x : Asking (Array (Point Float) × Nat) γ) (c : γ) : Prop where
  finishes : Answered answer points v (n + l) → x.run.run (record points n) = (.ok c, record points (n + l))
  fails {k : Nat} {e : FormulaError} : n ≤ k → k < n + l → FailsFirst answer points v k e →
    x.run.run (record points n) = (.error e, record points (k + 1))

variable {answer : Answers} {points v : Nat → Point Float} {γ δ : Type}

theorem Answered.mono {n m : Nat} (h : Answered answer points v m) (hn : n ≤ m) : Answered answer points v n :=
  fun k hk => h k (Nat.lt_of_lt_of_le hk hn)

theorem makes_pure (n : Nat) (c : γ) : Makes answer points v n 0 (pure c) c where
  finishes _ := rfl
  fails hn hk _ := absurd hk (Nat.not_lt.mpr hn)

theorem makes_ask (n : Nat) : Makes answer points v n 1 (recording answer (points n)) (v n) := by
  have hrun : (recording answer (points n)).run.run (record points n) =
      (answer n (points n), record points (n + 1)) := by
    rw [record_succ]
    rfl
  constructor
  · intro h
    rw [hrun, h n (Nat.lt_succ_self n)]
  · intro k e hn hk h
    obtain rfl : k = n := by omega
    rw [hrun, h.2]

theorem Makes.bind {n l m : Nat} {x : Asking (Array (Point Float) × Nat) γ} {c : γ}
    {f : γ → Asking (Array (Point Float) × Nat) δ} {d : δ} (hx : Makes answer points v n l x c)
    (hf : Makes answer points v (n + l) m (f c) d) : Makes answer points v n (l + m) (x >>= f) d := by
  constructor
  · intro h
    rw [ExceptT.run_bind, StateT.run_bind, hx.finishes (h.mono (by omega)), ← Nat.add_assoc]
    exact hf.finishes (h.mono (by omega))
  · intro k e hn hk h
    rw [ExceptT.run_bind, StateT.run_bind]
    by_cases hl : k < n + l
    · rw [hx.fails hn hl h]
      rfl
    · rw [hx.finishes (h.1.mono (by omega))]
      exact hf.fails (by omega) (by omega) h

section
variable {l : Nat} {x : Asking (Array (Point Float) × Nat) γ} {c : γ} (hx : Makes answer points v 0 l x c)
include hx

theorem Makes.run_eq (h : Answered answer points v l) : x.run.run (#[], 0) = (.ok c, record points l) := by
  rw [← Nat.zero_add l] at h ⊢
  exact hx.finishes h

theorem Makes.run_eq_error {k : Nat} {e : FormulaError} (hk : k < l) (h : FailsFirst answer points v k e) :
    x.run.run (#[], 0) = (.error e, record points (k + 1)) :=
  hx.fails (Nat.zero_le k) (by rwa [Nat.zero_add]) h

end

theorem makes_ofFnM {n k : Nat} {f : Fin k → Asking (Array (Point Float) × Nat) γ} {c : Fin k → γ}
    (h : ∀ i : Fin k, Makes answer points v (n + i.val) 1 (f i) (c i)) :
    Makes answer points v n k (List.ofFnM f) (List.ofFn c) := by
  induction k generalizing n with
  | zero =>
    rw [List.ofFnM_zero, List.ofFn_zero]
    exact makes_pure n []
  | succ k ih =>
    rw [List.ofFnM_succ, List.ofFn_succ]
    have hrest (i : Fin k) : Makes answer points v (n + 1 + i.val) 1 (f i.succ) (c i.succ) := by
      have hi := h i.succ
      rwa [Fin.val_succ, Nat.add_comm i.val 1, ← Nat.add_assoc] at hi
    have htail : Makes answer points v (n + 1) (k + 0)
        (do let cs ← List.ofFnM fun i => f i.succ; return c 0 :: cs) (c 0 :: List.ofFn fun i => c i.succ) :=
      (ih hrest).bind (makes_pure _ _)
    have hall := (h 0).bind (f := fun w => do let cs ← List.ofFnM fun i => f i.succ; return w :: cs) htail
    have hcount : 1 + (k + 0) = k + 1 := by omega
    rw [hcount] at hall
    exact hall

/-- Where the point of a call depends on earlier answers alone, every field answers all of the calls or fails
first at one of them. -/
theorem exists_answered (points : (Nat → Point Float) → Nat → Point Float)
    (hearlier : ∀ v w k, (∀ j < k, v j = w j) → points v k = points w k) (answer : Answers) (n : Nat) :
    ∃ v, Answered answer (points v) v n ∨ ∃ k < n, ∃ e, FailsFirst answer (points v) v k e := by
  induction n with
  | zero => exact ⟨fun _ => ⟨0, 0⟩, .inl nofun⟩
  | succ n ih =>
    obtain ⟨v, h | ⟨k, hk, hfail⟩⟩ := ih
    · cases hn : answer n (points v n) with
      | error e => exact ⟨v, .inr ⟨n, Nat.lt_succ_self n, e, h, hn⟩⟩
      | ok w =>
        -- with the new answer the earlier calls stay where they are
        refine ⟨Function.update v n w, .inl ?_⟩
        intro k hk
        have hpoints : points (Function.update v n w) k = points v k := by
          apply hearlier
          intro j hj
          have hjn : j ≠ n := by omega
          exact Function.update_of_ne hjn ..
        rw [hpoints]
        by_cases hkn : k = n
        · rw [hkn, hn, Function.update_self]
        · rw [Function.update_of_ne hkn, h k (by omega)]
    · exact ⟨v, .inr ⟨k, Nat.lt_succ_of_lt hk, hfail⟩⟩

end PhasePortrait
