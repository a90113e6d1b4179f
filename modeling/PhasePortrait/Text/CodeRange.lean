/-! # Character classes as tables of code points

A class is a list of inclusive ranges in ascending order.
-/
namespace PhasePortrait.Text

/-- Whether the code point of `c` lies in one of the ranges of `table`. -/
def listed (table : List (Nat × Nat)) (c : Char) : Bool :=
  table.any fun r => r.1 ≤ c.toNat && c.toNat ≤ r.2

theorem listed_eq_true_iff {table : List (Nat × Nat)} {c : Char} :
    listed table c = true ↔ ∃ r ∈ table, r.1 ≤ c.toNat ∧ c.toNat ≤ r.2 := by
  simp [listed]

end PhasePortrait.Text
