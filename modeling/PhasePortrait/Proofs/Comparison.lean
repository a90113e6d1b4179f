/-! # Comparison of doubles

Only what is no number compares with nothing. Of two finite doubles one is below the other or they are equal, so
where one comparison fails the opposite one succeeds.
-/
namespace PhasePortrait.Double
open Float.Model

/-! ## Unpacked doubles -/

theorem swap_compare_then (e₁ e₂ : Int) (m₁ m₂ : Nat) :
    ((compare e₁ e₂).then (compare m₁ m₂)).swap = (compare e₂ e₁).then (compare m₂ m₁) := by
  rw [Ordering.swap_then, ← Std.OrientedCmp.eq_swap, ← Std.OrientedCmp.eq_swap]

/-- Finite doubles compare, and in the other order the other way round. -/
theorem exists_compare_eq {u v : UnpackedFloat} (hu : u.isFinite = true) (hv : v.isFinite = true) :
    ∃ o : Ordering, u.compare v = some o ∧ v.compare u = some o.swap := by
  cases u with
  | notANumber | infinity => cases hu
  | zero s =>
    cases v with
    | notANumber | infinity => cases hv
    | zero t => exact ⟨.eq, rfl, rfl⟩
    | finite t m e hm =>
      cases t with
      | positive => exact ⟨.lt, rfl, rfl⟩
      | negative => exact ⟨.gt, rfl, rfl⟩
  | finite s m e hm =>
    cases v with
    | notANumber | infinity => cases hv
    | zero t =>
      cases s with
      | positive => exact ⟨.gt, rfl, rfl⟩
      | negative => exact ⟨.lt, rfl, rfl⟩
    | finite t m' e' hm' =>
      cases s with
      | positive =>
        cases t with
        | positive => exact ⟨_, rfl, congrArg some (swap_compare_then e e' m m').symm⟩
        | negative => exact ⟨.gt, rfl, rfl⟩
      | negative =>
        cases t with
        | positive => exact ⟨.lt, rfl, rfl⟩
        | negative => exact ⟨_, rfl, by rw [swap_compare_then e e']; rfl⟩

/-! ## Doubles -/

section
variable {a b : Float}

theorem lt_iff_compare : a < b ↔ a.toModel.unpack.compare b.toModel.unpack = some .lt := by
  change Float.lt a b = true ↔ _
  rw [Float.lt, decide_eq_true_iff]
  exact beq_iff_eq

theorem le_iff_compare : a ≤ b ↔ (a.toModel.unpack.compare b.toModel.unpack).any Ordering.isLE = true := by
  change Float.le a b = true ↔ _
  rw [Float.le, decide_eq_true_iff]
  rfl

theorem beq_iff_compare : (a == b) = true ↔ a.toModel.unpack.compare b.toModel.unpack = some .eq := by
  change (a.toModel.unpack.compare b.toModel.unpack == some .eq) = true ↔ _
  exact beq_iff_eq

theorem not_le_iff (ha : a.isFinite = true) (hb : b.isFinite = true) : ¬b ≤ a ↔ a < b := by
  obtain ⟨o, hab, hba⟩ := exists_compare_eq ha hb
  rw [le_iff_compare, lt_iff_compare, hab, hba]
  cases o <;> decide

theorem not_beq_iff (ha : a.isFinite = true) (hb : b.isFinite = true) : ¬(a == b) = true ↔ a < b ∨ b < a := by
  obtain ⟨o, hab, hba⟩ := exists_compare_eq ha hb
  rw [beq_iff_compare, lt_iff_compare, lt_iff_compare, hab, hba]
  cases o <;> decide

end

end PhasePortrait.Double
