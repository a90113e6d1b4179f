import Mathlib.Algebra.Order.Field.Power
import Mathlib.Tactic.Positivity
import PhasePortrait.Proofs.Comparison
import PhasePortrait.Proofs.Mantissa

/-! # The numbers that doubles mean

A finite double means a number, and a number is rounded to the double that means the nearest one, or to an infinite
double where it is beyond all of them. Finite doubles compare as the numbers do.
-/
namespace PhasePortrait.Double
open Float.Model Float.Model.UnpackedFloat

noncomputable def toReal (a : Float) : ℝ := real a.toModel.unpack

/-- The double is the one nearest to `y`, or infinite with the sign of `y` where `y` is beyond all doubles. -/
structure Rounds (y : ℝ) (a : Float) : Prop where
  finite : |y| < overflow → a.isFinite = true ∧ toReal a = nearest y
  infinite : overflow ≤ |y| → a.toModel.unpack = .infinity (if y < 0 then .negative else .positive)

/-- The double with the given digits. -/
def packed (u : UnpackedFloat) : Float := .ofModel (Float.Model.pack u)

theorem packed_unpack (a : Float) : packed a.toModel.unpack = a := ofModel_pack_unpack a

theorem isFinite_eq (a : Float) : a.isFinite = a.toModel.unpack.isFinite := rfl

@[simp] theorem signed_neg (s : Sign) (y : ℝ) : signed (-s) y = -signed s y := by
  cases s
  · exact (InvolutiveNeg.neg_neg y).symm
  · rfl

theorem signed_mul (s t : Sign) (y z : ℝ) : signed (s * t) (y * z) = signed s y * signed t z := by
  cases s <;> cases t
  · exact (neg_mul_neg y z).symm
  · exact (neg_mul y z).symm
  · exact (mul_neg y z).symm
  · rfl

theorem signed_div (s t : Sign) (y z : ℝ) : signed (s / t) (y / z) = signed s y / signed t z := by
  cases s <;> cases t
  · exact (neg_div_neg_eq y z).symm
  · exact (neg_div z y).symm
  · exact (div_neg y).symm
  · rfl

theorem abs_signed (s : Sign) (y : ℝ) : |signed s y| = |y| := by
  cases s
  · exact abs_neg y
  · rfl

theorem nearest_signed (s : Sign) (y : ℝ) : nearest (signed s y) = signed s (nearest y) := by
  cases s
  · exact nearest_neg y
  · rfl

/-! ## Finite doubles -/

theorem isFinite_cases {a : Float} (h : a.isFinite = true) :
    (∃ s, a.toModel.unpack = .zero s) ∨
      ∃ s m e, ∃ hm : 0 < m, a.toModel.unpack = .finite s m e hm ∧ Digits m e ∧ e ≤ 971 := by
  rw [isFinite_eq] at h
  cases hu : a.toModel.unpack with
  | notANumber | infinity s =>
    rw [hu] at h
    cases h
  | zero s => exact .inl ⟨s, rfl⟩
  | finite s m e hm => exact .inr ⟨s, m, e, hm, rfl, digits_of_unpack hu⟩

theorem Digits.representable {m : ℕ} {e : ℤ} (h : Digits m e) : Representable (m * 2 ^ e) := by
  refine ⟨m, e, ?_, h.least, by rw [Int.cast_natCast]⟩
  rw [Nat.abs_cast]
  exact_mod_cast h.lt.le

theorem Digits.lt_overflow {m : ℕ} {e : ℤ} (h : Digits m e) (he : e ≤ 971) : (m : ℝ) * 2 ^ e < overflow := by
  have hm : (m : ℝ) ≤ 2 ^ (53 : ℤ) - 1 := by
    have : m + 1 ≤ 2 ^ 53 := h.lt
    rw [le_sub_iff_add_le]
    exact_mod_cast this
  calc (m : ℝ) * 2 ^ e ≤ (2 ^ (53 : ℤ) - 1) * 2 ^ (971 : ℤ) :=
        mul_le_mul hm (zpow_le_zpow_right₀ one_le_two he) (two_zpow_pos e).le (by norm_num)
    _ < overflow := by
        rw [overflow_eq]
        exact mul_lt_mul_of_pos_right (by norm_num) (two_zpow_pos 971)

theorem representable_signed {s : Sign} {y : ℝ} (h : Representable y) : Representable (signed s y) := by
  cases s
  · exact h.neg
  · exact h

theorem toReal_of_zero {a : Float} {s : Sign} (h : a.toModel.unpack = .zero s) : toReal a = 0 := by
  rw [toReal, h]
  rfl

theorem isFinite_of_toReal_ne_zero {a : Float} (h : toReal a ≠ 0) : a.isFinite = true := by
  rw [isFinite_eq]
  rw [toReal] at h
  cases hu : a.toModel.unpack with
  | zero s | finite s m e hm => rfl
  | infinity s | notANumber =>
    rw [hu] at h
    exact absurd rfl h

theorem representable_toReal (a : Float) : Representable (toReal a) := by
  unfold toReal
  cases h : a.toModel.unpack with
  | finite s m e hm => exact representable_signed (digits_of_unpack h).1.representable
  | _ => exact representable_zero

theorem abs_toReal_lt (a : Float) : |toReal a| < overflow := by
  unfold toReal
  cases h : a.toModel.unpack with
  | finite s m e hm =>
    obtain ⟨hd, he⟩ := digits_of_unpack h
    rw [real_finite, abs_signed, abs_of_nonneg (by positivity)]
    exact hd.lt_overflow he
  | _ => exact abs_zero.trans_lt overflow_pos

theorem toReal_neg (a : Float) : toReal (-a) = -toReal a := by
  unfold toReal
  rw [unpack_neg]
  cases a.toModel.unpack with
  | finite s m e hm => exact signed_neg s _
  | _ => exact neg_zero.symm

theorem rounds_self {a : Float} (h : a.isFinite = true) : Rounds (toReal a) a :=
  ⟨fun _ => ⟨h, (nearest_of_representable (representable_toReal a)).symm⟩, fun hle => absurd (abs_toReal_lt a) hle.not_gt⟩

theorem rounds_zero (s : Sign) : Rounds 0 (packed (.zero s)) := by
  have hzero : toReal (packed (.zero s)) = 0 := by cases s <;> rfl
  rw [← hzero]
  apply rounds_self
  cases s <;> rfl

/-! ## Rounding digits -/

theorem rounds_of_isRounded {s : Sign} {y : ℝ} {u : UnpackedFloat} (hy : 0 < y) (h : IsRounded s y u) :
    Rounds (signed s y) (packed u) := by
  have habs : |signed s y| = y := by rw [abs_signed, abs_of_pos hy]
  cases h with
  | zero hz =>
    have hlt : y < overflow := nearest_lt_iff.mp (by rw [hz]; exact two_zpow_pos _)
    refine ⟨fun _ => ?_, fun hle => absurd hlt (habs ▸ hle).not_gt⟩
    obtain ⟨hfinite, hreal⟩ := (rounds_zero s).finite (by rw [abs_zero]; exact hy.trans hlt)
    rw [nearest_signed, hz, hreal, nearest_zero]
    exact ⟨hfinite, by cases s <;> simp [signed]⟩
  | @finite m e hm hd hv =>
    rcases le_or_gt e 971 with he | he
    · have hlt : y < overflow := nearest_lt_iff.mp (by rw [hv]; exact (hd.lt_overflow he).trans overflow_lt)
      have hunpack : (packed (.finite s m e hm)).toModel.unpack = .finite s m e hm := unpack_pack_finite s hm hd he
      refine ⟨fun _ => ?_, fun hle => absurd hlt (habs ▸ hle).not_gt⟩
      rw [isFinite_eq, toReal, hunpack, nearest_signed, hv]
      exact ⟨rfl, rfl⟩
    · -- a full mantissa behind the greatest exponent
      have hfull : 2 ^ 52 ≤ m := hd.full.resolve_right (by omega)
      have hle : (2 : ℝ) ^ (1024 : ℤ) ≤ nearest y := by
        have hsplit : (2 : ℝ) ^ (1024 : ℤ) = 2 ^ (52 : ℤ) * 2 ^ (972 : ℤ) := zpow_add₀ two_ne_zero 52 972
        rw [hv, hsplit]
        exact mul_le_mul (by exact_mod_cast hfull) (zpow_le_zpow_right₀ one_le_two he) (two_zpow_pos _).le
          (Nat.cast_nonneg m)
      have hnot : ¬y < overflow := fun hlt => (nearest_lt_iff.mpr hlt).not_ge hle
      refine ⟨fun hlt => absurd (habs ▸ hlt) hnot, fun _ => ?_⟩
      have hsign : (if signed s y < 0 then Sign.negative else .positive) = s := by
        cases s
        · exact if_pos (neg_lt_zero.mpr hy)
        · exact if_neg hy.le.not_gt
      rw [hsign]
      exact unpack_pack_overflow s hm he

theorem rounds_normalize (m : ℤ) (e : ℤ) : Rounds (m * 2 ^ e) (packed (UnpackedFloat.normalize .binary64 m e .positive)) := by
  unfold UnpackedFloat.normalize
  rcases lt_trichotomy m 0 with hm | rfl | hm
  · rw [Int.compare_eq_lt.mpr hm]
    have hcast : (m : ℝ) * 2 ^ e = signed .negative (((-m).toNat : ℝ) * 2 ^ e) := by
      have : (((-m).toNat : ℤ) : ℝ) = ((-m : ℤ) : ℝ) := by rw [Int.toNat_of_nonneg (by omega)]
      rw [Int.cast_natCast] at this
      rw [this, signed]
      push_cast
      ring
    have hpos : 0 < (-m).toNat := by omega
    rw [hcast]
    exact rounds_of_isRounded (by positivity) (isRounded_round .negative hpos e)
  · rw [Int.cast_zero, zero_mul]
    exact rounds_zero .positive
  · rw [Int.compare_eq_gt.mpr hm]
    have hcast : (m : ℝ) * 2 ^ e = signed .positive ((m.toNat : ℝ) * 2 ^ e) := by
      have : ((m.toNat : ℤ) : ℝ) = m := by rw [Int.toNat_of_nonneg hm.le]
      rw [Int.cast_natCast] at this
      rw [this, signed]
    have hpos : 0 < m.toNat := by omega
    rw [hcast]
    exact rounds_of_isRounded (by positivity) (isRounded_round .positive hpos e)

/-! ## Rounded numbers -/

section
variable {y z : ℝ} {a : Float}

theorem Rounds.isFinite_iff (h : Rounds y a) : a.isFinite = true ↔ |y| < overflow := by
  refine ⟨fun hf => ?_, fun hy => (h.finite hy).1⟩
  by_contra hy
  rw [isFinite_eq, h.infinite (not_lt.mp hy)] at hf
  cases hf

theorem Rounds.toReal_eq (h : Rounds y a) (ha : a.isFinite = true) : toReal a = nearest y :=
  (h.finite (h.isFinite_iff.mp ha)).2

theorem Rounds.eq_zero (h : Rounds 0 a) : a.isFinite = true ∧ toReal a = 0 := by
  obtain ⟨hfinite, hreal⟩ := h.finite (by rw [abs_zero]; exact overflow_pos)
  exact ⟨hfinite, hreal.trans nearest_zero⟩

/-- A number between two doubles is rounded to a double between them. -/
theorem Rounds.between (h : Rounds y a) {lo hi : Float} (hlo : toReal lo ≤ y) (hhi : y ≤ toReal hi) :
    a.isFinite = true ∧ toReal lo ≤ toReal a ∧ toReal a ≤ toReal hi := by
  have hbound : |y| < overflow := by
    rw [abs_lt]
    exact ⟨(abs_lt.mp (abs_toReal_lt lo)).1.trans_le hlo, hhi.trans_lt (abs_lt.mp (abs_toReal_lt hi)).2⟩
  obtain ⟨hfinite, hreal⟩ := h.finite hbound
  rw [hreal]
  exact ⟨hfinite, le_nearest (representable_toReal lo) hlo, nearest_le (representable_toReal hi) hhi⟩

theorem Rounds.abs_le (h : Rounds y a) (hz : Representable z) (hle : |y| ≤ z) (hlt : z < overflow) :
    a.isFinite = true ∧ |toReal a| ≤ z := by
  obtain ⟨hfinite, hreal⟩ := h.finite (hle.trans_lt hlt)
  rw [hreal, abs_nearest]
  exact ⟨hfinite, nearest_le hz hle⟩

theorem Rounds.le_abs (h : Rounds y a) (ha : a.isFinite = true) (hz : Representable z) (hle : z ≤ |y|) : z ≤ |toReal a| := by
  rw [h.toReal_eq ha, abs_nearest]
  exact le_nearest hz hle

theorem Rounds.nonneg_cases (h : Rounds y a) (hy : 0 ≤ y) :
    (a.isFinite = true ∧ toReal a = nearest y) ∨ a.toModel.unpack = .infinity .positive := by
  rcases lt_or_ge |y| overflow with hlt | hge
  · exact .inl (h.finite hlt)
  · rw [h.infinite hge, if_neg hy.not_gt]
    exact .inr rfl

end

/-! ## Comparison -/

theorem Digits.lt_of_lt {m n : ℕ} {e f : ℤ} (hm : Digits m e) (hn : Digits n f) (h : e < f) :
    (m : ℝ) * 2 ^ e < n * 2 ^ f := by
  have hfull : 2 ^ 52 ≤ n := hn.full.resolve_right (by have := hm.least; omega)
  have hm' : (m : ℝ) < 2 ^ (53 : ℤ) := by exact_mod_cast hm.lt
  have hn' : (2 : ℝ) ^ (52 : ℤ) ≤ n := by exact_mod_cast hfull
  calc (m : ℝ) * 2 ^ e < 2 ^ (53 : ℤ) * 2 ^ e := mul_lt_mul_of_pos_right hm' (two_zpow_pos e)
    _ = 2 ^ (52 : ℤ) * 2 ^ (e + 1) := by
      rw [← zpow_add₀ two_ne_zero, ← zpow_add₀ two_ne_zero]
      congr 1
      ring
    _ ≤ n * 2 ^ f := mul_le_mul hn' (zpow_le_zpow_right₀ one_le_two h) (two_zpow_pos _).le (Nat.cast_nonneg n)

/-- Exponents decide first, then mantissas. -/
theorem Digits.compare_eq {m n : ℕ} {e f : ℤ} (hm : Digits m e) (hn : Digits n f) :
    (compare e f).then (compare m n) = .lt ↔ (m : ℝ) * 2 ^ e < n * 2 ^ f := by
  rcases lt_trichotomy e f with h | rfl | h
  · rw [compare_lt_iff_lt.mpr h]
    exact iff_of_true rfl (hm.lt_of_lt hn h)
  · rw [compare_eq_iff_eq.mpr rfl, mul_lt_mul_iff_left₀ (two_zpow_pos e), Nat.cast_lt]
    exact compare_lt_iff_lt
  · rw [compare_gt_iff_gt.mpr h]
    exact iff_of_false nofun (hn.lt_of_lt hm h).not_gt

theorem lt_iff_toReal {a b : Float} (ha : a.isFinite = true) (hb : b.isFinite = true) :
    a < b ↔ toReal a < toReal b := by
  rw [lt_iff_compare, toReal, toReal]
  rcases isFinite_cases ha with ⟨s, hu⟩ | ⟨s, m, e, hm, hu, hd, -⟩ <;>
    rcases isFinite_cases hb with ⟨t, hv⟩ | ⟨t, n, f, hn, hv, hd', -⟩ <;> rw [hu, hv]
  · exact iff_of_false nofun (lt_irrefl 0)
  · have hpos : (0 : ℝ) < n * 2 ^ f := by positivity
    cases t
    · exact iff_of_false nofun (neg_nonpos.mpr hpos.le).not_gt
    · exact iff_of_true rfl hpos
  · have hpos : (0 : ℝ) < m * 2 ^ e := by positivity
    cases s
    · exact iff_of_true rfl (neg_lt_zero.mpr hpos)
    · exact iff_of_false nofun hpos.le.not_gt
  · have hpos : (0 : ℝ) < m * 2 ^ e := by positivity
    have hpos' : (0 : ℝ) < n * 2 ^ f := by positivity
    cases s <;> cases t
    · change some ((compare e f).then (compare m n)).swap = some .lt ↔ -((m : ℝ) * 2 ^ e) < -(n * 2 ^ f)
      rw [swap_compare_then, neg_lt_neg_iff, Option.some_inj]
      exact hd'.compare_eq hd
    · exact iff_of_true rfl ((neg_lt_zero.mpr hpos).trans hpos')
    · exact iff_of_false nofun ((neg_lt_zero.mpr hpos').trans hpos).not_gt
    · change some ((compare e f).then (compare m n)) = some .lt ↔ (m : ℝ) * 2 ^ e < n * 2 ^ f
      rw [Option.some_inj]
      exact hd.compare_eq hd'

theorem le_iff_toReal {a b : Float} (ha : a.isFinite = true) (hb : b.isFinite = true) :
    a ≤ b ↔ toReal a ≤ toReal b := by
  rw [← not_lt (a := toReal b), ← lt_iff_toReal hb ha, ← not_le_iff hb ha, not_not]

end PhasePortrait.Double
