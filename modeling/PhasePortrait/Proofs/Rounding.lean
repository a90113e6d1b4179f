import Mathlib.Algebra.Order.Archimedean.Real.Basic
import Mathlib.Data.Int.Log
import Mathlib.Tactic.Linarith
import Mathlib.Tactic.NormNum

/-! # Rounding to a double

A number is rounded to fifty-three binary digits, or to the last place that any double has. Rounding keeps the order
with respect to doubles, changes a double not at all and any other number by half of a last place at most. Of what lies
behind an integer, two bits suffice to round. Rounding knows no upper limit of exponents; numbers from `overflow` on are
those that it takes beyond all doubles.
-/
namespace PhasePortrait.Double
open Float.Model Float.Model.UnpackedFloat

/-- The nearest integer, and of two that are equally near the even one. -/
noncomputable def roundEven (x : ℝ) : ℤ :=
  if x - ⌊x⌋ < 1 / 2 then ⌊x⌋ else if 1 / 2 < x - ⌊x⌋ then ⌊x⌋ + 1 else ⌊x⌋ + ⌊x⌋ % 2

/-- The exponent of the last binary place that a double near `x` can have. -/
noncomputable def place (x : ℝ) : ℤ := max (Int.log 2 |x| - 52) (-1074)

/-- The double nearest to `x`, if exponents had no upper limit. -/
noncomputable def nearest (x : ℝ) : ℝ := roundEven (x / 2 ^ place x) * 2 ^ place x

/-- Fifty-three binary digits are enough, none of them behind the last place of all doubles. -/
def Representable (z : ℝ) : Prop := ∃ k e : ℤ, |k| ≤ 2 ^ 53 ∧ -1074 ≤ e ∧ z = k * 2 ^ e

noncomputable def signed (s : Sign) (y : ℝ) : ℝ :=
  match s with
  | .positive => y
  | .negative => -y

/-- The number that is meant; 0 where none is. -/
noncomputable def real : UnpackedFloat → ℝ
  | .finite s m e _ => signed s (m * 2 ^ e)
  | .zero _ | .infinity _ | .notANumber => 0

@[simp] theorem real_finite (s : Sign) {m : ℕ} (e : ℤ) (hm : 0 < m) :
    real (.finite s m e hm) = signed s (m * 2 ^ e) := rfl

/-! ## Integers -/

theorem abs_roundEven_sub_le (x : ℝ) : |(roundEven x : ℝ) - x| ≤ 1 / 2 := by
  have hfloor := Int.floor_le x
  have hlt := Int.lt_floor_add_one x
  rw [abs_le]
  unfold roundEven
  split
  · constructor <;> linarith
  · split
    · push_cast
      constructor <;> linarith
    · -- the fraction is one half, so that both directions lead equally far
      rcases Int.emod_two_eq_zero_or_one ⌊x⌋ with h | h <;> rw [h] <;> push_cast <;> constructor <;> linarith

theorem even_roundEven {x : ℝ} (h : |(roundEven x : ℝ) - x| = 1 / 2) : Even (roundEven x) := by
  have hlt := Int.lt_floor_add_one x
  unfold roundEven at h ⊢
  split at h
  · rw [abs_of_nonpos (by linarith [Int.floor_le x])] at h
    linarith
  · split at h
    · push_cast at h
      rw [abs_of_nonneg (by linarith)] at h
      linarith
    · rw [if_neg ‹_›, if_neg ‹_›]
      rcases Int.emod_two_eq_zero_or_one ⌊x⌋ with hm | hm <;> rw [hm, Int.even_iff] <;> omega

theorem roundEven_eq {x : ℝ} {k : ℤ} (hk : |(k : ℝ) - x| ≤ 1 / 2) (heven : |(k : ℝ) - x| = 1 / 2 → Even k) :
    roundEven x = k := by
  have hr := abs_roundEven_sub_le x
  by_contra hne
  have hone : (1 : ℝ) ≤ |(roundEven x : ℝ) - k| := by
    exact_mod_cast Int.one_le_abs (sub_ne_zero.mpr hne)
  have hsum := abs_sub_le (roundEven x : ℝ) x k
  rw [abs_sub_comm x] at hsum
  -- both are at the greatest distance, so both are even, and they are neighbours
  have h₁ : Even (roundEven x) := even_roundEven (by linarith)
  have h₂ : Even k := heven (by linarith)
  have hle : |roundEven x - k| ≤ 1 := by
    have : |(roundEven x : ℝ) - k| ≤ 1 := by linarith
    exact_mod_cast this
  rw [abs_le] at hle
  rw [Int.even_iff] at h₁ h₂
  omega

theorem roundEven_eq_of_lt {x : ℝ} {k : ℤ} (hk : |(k : ℝ) - x| < 1 / 2) : roundEven x = k :=
  roundEven_eq hk.le fun h => absurd h hk.ne

theorem roundEven_intCast (k : ℤ) : roundEven k = k := by
  apply roundEven_eq_of_lt
  norm_num

theorem roundEven_neg (x : ℝ) : roundEven (-x) = -roundEven x := by
  have hdistance : |((-roundEven x : ℤ) : ℝ) - -x| = |(roundEven x : ℝ) - x| := by
    rw [Int.cast_neg, neg_sub_neg, abs_sub_comm]
  apply roundEven_eq
  · rw [hdistance]
    exact abs_roundEven_sub_le x
  · intro h
    rw [hdistance] at h
    exact (even_roundEven h).neg

theorem roundEven_le {x : ℝ} {k : ℤ} (h : x ≤ k) : roundEven x ≤ k := by
  have herror := (abs_le.mp (abs_roundEven_sub_le x)).2
  have hlt : (roundEven x : ℝ) < (k + 1 : ℤ) := by
    push_cast
    linarith
  exact Int.lt_add_one_iff.mp (Int.cast_lt.mp hlt)

theorem le_roundEven {x : ℝ} {k : ℤ} (h : k ≤ x) : k ≤ roundEven x := by
  have herror := (abs_le.mp (abs_roundEven_sub_le x)).1
  have hlt : ((k - 1 : ℤ) : ℝ) < roundEven x := by
    push_cast
    linarith
  exact Int.sub_one_lt_iff.mp (Int.cast_lt.mp hlt)

/-- Half way below an even integer lies the first number that is rounded to it. -/
theorem roundEven_lt_iff {x : ℝ} {k : ℤ} (hk : Even k) : roundEven x < k ↔ x < k - 1 / 2 := by
  have herror := abs_le.mp (abs_roundEven_sub_le x)
  constructor
  · intro h
    have hle : (roundEven x : ℝ) ≤ k - 1 := by exact_mod_cast Int.le_sub_one_of_lt h
    refine lt_of_le_of_ne (by linarith) fun hx => ?_
    have hr : (roundEven x : ℝ) = k - 1 := by linarith
    have heven : Even (roundEven x) := even_roundEven (by rw [hr, hx]; norm_num)
    have hk' : roundEven x = k - 1 := by exact_mod_cast hr
    rw [Int.even_iff] at heven hk
    omega
  · intro h
    have hlt : (roundEven x : ℝ) < k := by linarith
    exact_mod_cast hlt

/-! ## Bits behind the mantissa -/

/-- The number in units of the last place of the mantissa; of what lies behind it the two bits tell on which side of
one half it is. -/
def StandsFor (em : ExtendedMantissa) (x : ℝ) : Prop :=
  match em.roundBit, em.stickyBit with
  | false, false => x = em.mantissa
  | false, true => em.mantissa < x ∧ x < em.mantissa + 1 / 2
  | true, false => x = em.mantissa + 1 / 2
  | true, true => em.mantissa + 1 / 2 < x ∧ x < em.mantissa + 1

theorem standsFor_exact (m : ℕ) : StandsFor (.ofMantissaAndAccuracy m .exact) m := rfl

theorem StandsFor.le {em : ExtendedMantissa} {x : ℝ} (h : StandsFor em x) : em.mantissa ≤ x := by
  obtain ⟨m, r, s⟩ := em
  cases r <;> cases s <;> simp only [StandsFor] at h ⊢ <;> linarith

theorem StandsFor.lt {em : ExtendedMantissa} {x : ℝ} (h : StandsFor em x) : x < em.mantissa + 1 := by
  obtain ⟨m, r, s⟩ := em
  cases r <;> cases s <;> simp only [StandsFor] at h ⊢ <;> linarith

theorem StandsFor.roundEven_eq {em : ExtendedMantissa} {x : ℝ} (h : StandsFor em x) :
    roundEven x = em.roundedMantissa := by
  obtain ⟨m, r, s⟩ := em
  cases r <;> cases s <;>
    simp only [StandsFor, ExtendedMantissa.roundedMantissa, ExtendedMantissa.accuracy, Accuracy.roundToNearestEven] at h ⊢
  · rw [h]
    exact roundEven_intCast m
  · apply roundEven_eq_of_lt
    rw [abs_lt]
    push_cast
    constructor <;> linarith
  · -- half way between two mantissas
    have hparity := Nat.mod_two_eq_zero_or_one m
    have heven : Even ((m + m % 2 : ℕ) : ℤ) := by
      rw [Int.even_iff]
      omega
    refine Double.roundEven_eq ?_ fun _ => heven
    rw [h, abs_le]
    rcases hparity with hm | hm <;> rw [hm] <;> push_cast <;> constructor <;> linarith
  · apply roundEven_eq_of_lt
    rw [abs_lt]
    push_cast
    constructor <;> linarith

/-! ## The last place -/

theorem two_zpow_pos (e : ℤ) : (0 : ℝ) < 2 ^ e := zpow_pos two_pos e

theorem half_two_zpow (e : ℤ) : 1 / 2 * (2 : ℝ) ^ e = 2 ^ (e - 1) := by
  rw [zpow_sub_one₀ two_ne_zero, one_div, mul_comm]

theorem le_place (x : ℝ) : -1074 ≤ place x := le_max_right _ _

theorem place_neg (x : ℝ) : place (-x) = place x := by rw [place, place, abs_neg]

theorem place_eq_of_ne {x : ℝ} (h : place x ≠ -1074) : place x = Int.log 2 |x| - 52 := by
  unfold place at h ⊢
  omega

theorem abs_lt_two_zpow (x : ℝ) : |x| < 2 ^ (place x + 53) := by
  have hlog : |x| < 2 ^ (Int.log 2 |x| + 1) := Int.lt_zpow_succ_log_self one_lt_two |x|
  exact hlog.trans_le (zpow_le_zpow_right₀ one_le_two (by unfold place; omega))

/-- Behind the last place of all, the leading digit is the fifty-third from the last. -/
theorem two_zpow_le_abs {x : ℝ} (hx : x ≠ 0) (h : place x ≠ -1074) : (2 : ℝ) ^ (place x + 52) ≤ |x| := by
  rw [place_eq_of_ne h, sub_add_cancel]
  exact Int.zpow_log_le_self one_lt_two (abs_pos.mpr hx)

/-! ## Representable numbers -/

theorem Representable.neg {z : ℝ} (h : Representable z) : Representable (-z) := by
  obtain ⟨k, e, hk, he, rfl⟩ := h
  exact ⟨-k, e, by rwa [abs_neg], he, by push_cast; ring⟩

theorem Representable.twice {z : ℝ} (h : Representable z) : Representable (2 * z) := by
  obtain ⟨k, e, hk, he, rfl⟩ := h
  exact ⟨k, e + 1, hk, by omega, by rw [zpow_add_one₀ two_ne_zero]; ring⟩

theorem representable_zero : Representable 0 := ⟨0, 0, by norm_num, by norm_num, by simp⟩

theorem representable_two_zpow {e : ℤ} (he : -1074 ≤ e) : Representable (2 ^ e) :=
  ⟨1, e, by norm_num, he, by push_cast; ring⟩

theorem representable_natCast {n : ℕ} (hn : n ≤ 2 ^ 53) : Representable n :=
  ⟨n, 0, by rw [Nat.abs_cast]; exact_mod_cast hn, by norm_num, by simp⟩

/-- A representable number either has no digits behind the last place of `x`, or it is not beyond `x`. -/
theorem Representable.cases {z : ℝ} (hz : Representable z) (x : ℝ) :
    (∃ k : ℤ, z = k * 2 ^ place x) ∨ (place x ≠ -1074 ∧ |z| ≤ 2 ^ (place x + 52)) := by
  obtain ⟨k, e, hk, he, rfl⟩ := hz
  rcases le_or_gt (place x) e with hle | hlt
  · left
    refine ⟨k * 2 ^ (e - place x).toNat, ?_⟩
    have hexp : e = ((e - place x).toNat : ℤ) + place x := by omega
    push_cast
    rw [mul_assoc, ← zpow_natCast, ← zpow_add₀ two_ne_zero, ← hexp]
  · right
    refine ⟨by omega, ?_⟩
    have hk' : |(k : ℝ)| ≤ 2 ^ (53 : ℤ) := by exact_mod_cast hk
    calc |(k : ℝ) * 2 ^ e| = |(k : ℝ)| * 2 ^ e := by rw [abs_mul, abs_of_pos (two_zpow_pos e)]
      _ ≤ 2 ^ (53 : ℤ) * 2 ^ e := mul_le_mul_of_nonneg_right hk' (two_zpow_pos e).le
      _ = 2 ^ (53 + e) := (zpow_add₀ two_ne_zero _ _).symm
      _ ≤ 2 ^ (place x + 52) := zpow_le_zpow_right₀ one_le_two (by omega)

theorem Representable.multiple {z : ℝ} (h : Representable z) : ∃ k : ℤ, z = k * 2 ^ (-1074 : ℤ) := by
  obtain ⟨k, e, -, he, rfl⟩ := h
  refine ⟨k * 2 ^ (e + 1074).toNat, ?_⟩
  have hexp : e = ((e + 1074).toNat : ℤ) + -1074 := by omega
  push_cast
  rw [mul_assoc, ← zpow_natCast, ← zpow_add₀ two_ne_zero, ← hexp]

/-- Between two doubles there is at least the last place of all. -/
theorem Representable.add_place_le {y z : ℝ} (hy : Representable y) (hz : Representable z) (h : y < z) :
    y + 2 ^ (-1074 : ℤ) ≤ z := by
  obtain ⟨k, rfl⟩ := hy.multiple
  obtain ⟨l, rfl⟩ := hz.multiple
  have hlt : k < l := by exact_mod_cast (mul_lt_mul_iff_left₀ (two_zpow_pos _)).mp h
  have hle : (k : ℝ) + 1 ≤ l := by exact_mod_cast hlt
  rw [← add_one_mul]
  exact mul_le_mul_of_nonneg_right hle (two_zpow_pos _).le

/-- Fifty-three places in front of the last one of all are enough for a small difference. -/
theorem Representable.sub {y z : ℝ} (hy : Representable y) (hz : Representable z) (h : |y - z| ≤ 2 ^ (-1021 : ℤ)) :
    Representable (y - z) := by
  obtain ⟨k, rfl⟩ := hy.multiple
  obtain ⟨l, rfl⟩ := hz.multiple
  have hsplit : (2 : ℝ) ^ (-1021 : ℤ) = 2 ^ (53 : ℤ) * 2 ^ (-1074 : ℤ) := zpow_add₀ two_ne_zero 53 (-1074)
  rw [← sub_mul, abs_mul, abs_of_pos (two_zpow_pos _), hsplit, mul_le_mul_iff_left₀ (two_zpow_pos _)] at h
  exact ⟨k - l, -1074, by exact_mod_cast h, le_rfl, by push_cast; ring⟩

/-! ## The nearest double -/

theorem nearest_zero : nearest 0 = 0 := by
  have h : roundEven 0 = 0 := by exact_mod_cast roundEven_intCast 0
  rw [nearest, zero_div, h, Int.cast_zero, zero_mul]

theorem nearest_neg (x : ℝ) : nearest (-x) = -nearest x := by
  rw [nearest, place_neg, neg_div, roundEven_neg, nearest]
  push_cast
  ring

theorem nearest_le_multiple {x : ℝ} {k : ℤ} (h : x ≤ k * 2 ^ place x) : nearest x ≤ k * 2 ^ place x := by
  have hpos := two_zpow_pos (place x)
  have hr : roundEven (x / 2 ^ place x) ≤ k := roundEven_le ((div_le_iff₀ hpos).mpr h)
  exact mul_le_mul_of_nonneg_right (by exact_mod_cast hr) hpos.le

/-- Rounding does not go past a number that is a double itself. -/
theorem nearest_le {x z : ℝ} (hz : Representable z) (h : x ≤ z) : nearest x ≤ z := by
  rcases eq_or_ne x 0 with rfl | hx
  · rwa [nearest_zero]
  rcases hz.cases x with ⟨k, rfl⟩ | ⟨hp, hzle⟩
  · exact nearest_le_multiple h
  · -- the power of two at the leading place of `x` lies between `z` and `x`
    have hpower : (2 : ℝ) ^ (place x + 52) = (2 ^ 52 : ℤ) * 2 ^ place x := by
      rw [zpow_add₀ two_ne_zero]
      push_cast
      norm_num
      ring
    have hxle := two_zpow_le_abs hx hp
    rw [abs_le] at hzle
    rcases le_total 0 x with hpos | hneg
    · rw [abs_of_nonneg hpos] at hxle
      have hx' : x ≤ (2 ^ 52 : ℤ) * 2 ^ place x := by
        rw [← hpower]
        exact h.trans hzle.2
      exact (nearest_le_multiple hx').trans (by rw [← hpower]; exact hxle.trans h)
    · rw [abs_of_nonpos hneg] at hxle
      have hx' : x ≤ (-2 ^ 52 : ℤ) * 2 ^ place x := by
        push_cast at hpower ⊢
        linarith
      refine (nearest_le_multiple hx').trans ?_
      push_cast at hpower ⊢
      linarith

theorem le_nearest {x z : ℝ} (hz : Representable z) (h : z ≤ x) : z ≤ nearest x := by
  have hneg := nearest_le hz.neg (neg_le_neg h)
  rw [nearest_neg] at hneg
  exact neg_le_neg_iff.mp hneg

theorem nearest_nonneg {x : ℝ} (h : 0 ≤ x) : 0 ≤ nearest x := le_nearest representable_zero h

theorem abs_nearest (x : ℝ) : |nearest x| = nearest |x| := by
  rcases le_total 0 x with h | h
  · rw [abs_of_nonneg h, abs_of_nonneg (nearest_nonneg h)]
  · have hneg : nearest x ≤ 0 := nearest_le representable_zero h
    rw [abs_of_nonpos h, abs_of_nonpos hneg, nearest_neg]

theorem nearest_of_representable {z : ℝ} (hz : Representable z) : nearest z = z :=
  le_antisymm (nearest_le hz le_rfl) (le_nearest hz le_rfl)

theorem abs_digits_le (x : ℝ) : |roundEven (x / 2 ^ place x)| ≤ 2 ^ 53 := by
  have hpos := two_zpow_pos (place x)
  have hle : |x / 2 ^ place x| ≤ (2 ^ 53 : ℤ) := by
    rw [abs_div, abs_of_pos hpos, div_le_iff₀ hpos]
    have habs := (abs_lt_two_zpow x).le
    rw [add_comm, zpow_add₀ two_ne_zero] at habs
    exact_mod_cast habs
  rw [abs_le] at hle ⊢
  exact ⟨le_roundEven (by push_cast at hle ⊢; exact hle.1), roundEven_le hle.2⟩

theorem le_digits {x : ℝ} (hx : 0 < x) (h : place x ≠ -1074) : 2 ^ 52 ≤ roundEven (x / 2 ^ place x) := by
  have hpos := two_zpow_pos (place x)
  have hle := two_zpow_le_abs hx.ne' h
  rw [add_comm, zpow_add₀ two_ne_zero, abs_of_pos hx] at hle
  apply le_roundEven
  rw [le_div_iff₀ hpos]
  exact_mod_cast hle

theorem representable_nearest (x : ℝ) : Representable (nearest x) :=
  ⟨_, place x, abs_digits_le x, le_place x, rfl⟩

/-- The error is at most half of the last place, which is a small part of the number or the smallest place of all. -/
theorem abs_nearest_sub_le (x : ℝ) : |nearest x - x| ≤ 2 ^ (-53 : ℤ) * |x| + 2 ^ (-1075 : ℤ) := by
  rcases eq_or_ne x 0 with rfl | hx
  · rw [nearest_zero, sub_zero, abs_zero, mul_zero, zero_add]
    exact (two_zpow_pos _).le
  have hpos := two_zpow_pos (place x)
  have hscaled : nearest x - x = (roundEven (x / 2 ^ place x) - x / 2 ^ place x) * 2 ^ place x := by
    rw [nearest, sub_mul, div_mul_cancel₀ x hpos.ne']
  have hhalf : |nearest x - x| ≤ 1 / 2 * 2 ^ place x := by
    rw [hscaled, abs_mul, abs_of_pos hpos]
    exact mul_le_mul_of_nonneg_right (abs_roundEven_sub_le _) hpos.le
  rw [half_two_zpow] at hhalf
  by_cases hp : place x = -1074
  · have hx₀ : 0 ≤ (2 : ℝ) ^ (-53 : ℤ) * |x| := mul_nonneg (two_zpow_pos _).le (abs_nonneg x)
    rw [hp] at hhalf
    exact hhalf.trans (le_add_of_nonneg_left hx₀)
  · calc |nearest x - x| ≤ 2 ^ (place x - 1) := hhalf
      _ = 2 ^ (-53 : ℤ) * 2 ^ (place x + 52) := by
        rw [← zpow_add₀ two_ne_zero]
        congr 1
        ring
      _ ≤ 2 ^ (-53 : ℤ) * |x| := mul_le_mul_of_nonneg_left (two_zpow_le_abs hx hp) (two_zpow_pos _).le
      _ ≤ 2 ^ (-53 : ℤ) * |x| + 2 ^ (-1075 : ℤ) := le_add_of_nonneg_right (two_zpow_pos _).le

theorem nearest_upper {x : ℝ} (h : 0 ≤ x) : nearest x ≤ (1 + 1 / 2 ^ 53) * x + 2 ^ (-1075 : ℤ) := by
  have herror := (abs_le.mp (abs_nearest_sub_le x)).2
  have hvalue : (2 : ℝ) ^ (-53 : ℤ) = 1 / 2 ^ 53 := by norm_num
  rw [abs_of_nonneg h, hvalue] at herror
  linarith

theorem nearest_lower {x : ℝ} (h : 0 ≤ x) : (1 - 1 / 2 ^ 53) * x - 2 ^ (-1075 : ℤ) ≤ nearest x := by
  have herror := (abs_le.mp (abs_nearest_sub_le x)).1
  have hvalue : (2 : ℝ) ^ (-53 : ℤ) = 1 / 2 ^ 53 := by norm_num
  rw [abs_of_nonneg h, hvalue] at herror
  linarith

theorem place_le_of_pos {z : ℝ} (hz : Representable z) (h : 0 < z) : 2 ^ (-1074 : ℤ) ≤ z := by
  have hle := representable_zero.add_place_le hz h
  rwa [zero_add] at hle

theorem twice_place : 2 * (2 : ℝ) ^ (-1076 : ℤ) = 2 ^ (-1075 : ℤ) ∧ 2 * (2 : ℝ) ^ (-1075 : ℤ) = 2 ^ (-1074 : ℤ) := by
  constructor <;> rw [← zpow_one_add₀ two_ne_zero] <;> rfl

/-- What is less than a quarter of the last place of all is rounded to 0. -/
theorem nearest_eq_zero {y : ℝ} (h₀ : 0 ≤ y) (h : y < 2 ^ (-1076 : ℤ)) : nearest y = 0 := by
  by_contra hne
  have hpos : 0 < nearest y := (nearest_nonneg h₀).lt_of_ne' hne
  have hplace := place_le_of_pos (representable_nearest y) hpos
  have hupper := nearest_upper h₀
  obtain ⟨htwice, htwice'⟩ := twice_place
  linarith

/-! ## Overflow -/

/-- Half a last place above the greatest double: from here on numbers are rounded beyond all of them. -/
noncomputable def overflow : ℝ := 2 ^ (1024 : ℤ) - 2 ^ (970 : ℤ)

theorem two_zpow_1024 : (2 : ℝ) ^ (1024 : ℤ) = 2 ^ (53 : ℤ) * 2 ^ (971 : ℤ) :=
  zpow_add₀ two_ne_zero 53 971

theorem overflow_eq : overflow = (2 ^ (53 : ℤ) - 1 / 2) * 2 ^ (971 : ℤ) := by
  rw [overflow, two_zpow_1024, sub_mul, half_two_zpow]
  rfl

theorem two_zpow_1023_lt_overflow : (2 : ℝ) ^ (1023 : ℤ) < overflow := by
  have hsplit : (2 : ℝ) ^ (1023 : ℤ) = 2 ^ (52 : ℤ) * 2 ^ (971 : ℤ) := zpow_add₀ two_ne_zero 52 971
  rw [hsplit, overflow_eq]
  exact mul_lt_mul_of_pos_right (by norm_num) (two_zpow_pos 971)

theorem overflow_pos : 0 < overflow := (two_zpow_pos _).trans two_zpow_1023_lt_overflow

theorem lt_overflow {y : ℝ} (h : y ≤ 2 ^ (53 : ℤ)) : y < overflow :=
  (h.trans (zpow_le_zpow_right₀ one_le_two (by norm_num))).trans_lt two_zpow_1023_lt_overflow

theorem overflow_lt : overflow < 2 ^ (1024 : ℤ) := sub_lt_self _ (two_zpow_pos 970)

theorem place_of_leading {x : ℝ} (h₁ : 2 ^ (1023 : ℤ) ≤ x) (h₂ : x < 2 ^ (1024 : ℤ)) : place x = 971 := by
  have hpos : 0 < x := (two_zpow_pos _).trans_le h₁
  have hle : 1023 ≤ Int.log 2 x := (Int.zpow_le_iff_le_log one_lt_two hpos).mp h₁
  have hlt : Int.log 2 x < 1024 := (Int.lt_zpow_iff_log_lt one_lt_two hpos).mp h₂
  rw [place, abs_of_pos hpos]
  omega

theorem nearest_lt_iff {x : ℝ} : nearest x < 2 ^ (1024 : ℤ) ↔ x < overflow := by
  rcases lt_or_ge x (2 ^ (1023 : ℤ)) with hsmall | hlarge
  · have hle : nearest x ≤ 2 ^ (1023 : ℤ) := nearest_le (representable_two_zpow (by norm_num)) hsmall.le
    have hbelow := two_zpow_1023_lt_overflow
    exact iff_of_true (hle.trans_lt (hbelow.trans overflow_lt)) (hsmall.trans hbelow)
  · rcases lt_or_ge x (2 ^ (1024 : ℤ)) with hbelow | habove
    · have hpos := two_zpow_pos 971
      have heven : Even ((2 : ℤ) ^ 53) := by decide
      have hcast : (2 : ℝ) ^ (53 : ℤ) = ((2 ^ 53 : ℤ) : ℝ) := by norm_num
      rw [nearest, place_of_leading hlarge hbelow, two_zpow_1024, overflow_eq, mul_lt_mul_iff_left₀ hpos, hcast,
        Int.cast_lt, roundEven_lt_iff heven, div_lt_iff₀ hpos]
    · have hle : (2 : ℝ) ^ (1024 : ℤ) ≤ nearest x := le_nearest (representable_two_zpow (by norm_num)) habove
      exact iff_of_false hle.not_gt (overflow_lt.trans_le habove).not_gt

theorem abs_nearest_lt_iff {x : ℝ} : |nearest x| < 2 ^ (1024 : ℤ) ↔ |x| < overflow := by
  rw [abs_lt, abs_lt, neg_lt, ← nearest_neg, nearest_lt_iff, nearest_lt_iff, neg_lt]

end PhasePortrait.Double
