import Mathlib.Analysis.Real.Sqrt
import PhasePortrait.Plane.Grid
import PhasePortrait.Proofs.Numbers

/-! # Operations on doubles

The sum, difference, product, quotient and root of finite doubles is that of the numbers they mean, rounded. What an
operation makes of infinite doubles follows at the end, as far as the view and the arrows depend on it.
-/
namespace PhasePortrait.Double
open Float.Model Float.Model.UnpackedFloat

/-! ## Sums and differences -/

section
variable {a b : Float} (ha : a.isFinite = true) (hb : b.isFinite = true)

theorem aligned (s : Sign) (m : ℕ) {e t : ℤ} (h : t ≤ e) :
    ((s.apply (decreaseExponent m e t).1 : ℤ) : ℝ) * 2 ^ t = signed s (m * 2 ^ e) := by
  obtain ⟨n, hn⟩ := Int.eq_ofNat_of_zero_le (sub_nonneg.mpr h)
  have hfirst : (decreaseExponent m e t).1 = m * 2 ^ n := by
    rw [decreaseExponent, hn, Nat.shiftLeft_eq]
    rfl
  have hexp : e = n + t := by omega
  have hvalue : ((m * 2 ^ n : ℕ) : ℝ) * 2 ^ t = m * 2 ^ e := by
    rw [hexp, zpow_add₀ two_ne_zero, zpow_natCast]
    push_cast
    ring
  rw [hfirst, ← hvalue]
  cases s
  · simp [Sign.apply, signed]
  · simp [Sign.apply, signed]

include ha hb

theorem rounds_add : Rounds (toReal a + toReal b) (a + b) := by
  have hadd : a + b = packed (UnpackedFloat.add .binary64 a.toModel.unpack b.toModel.unpack) := rfl
  rcases isFinite_cases ha with ⟨s, hu⟩ | ⟨s, m, e, hm, hu, -, -⟩
  · have ha₀ := toReal_of_zero hu
    rcases isFinite_cases hb with ⟨t, hv⟩ | ⟨t, n, f, hn, hv, -, -⟩
    · have hb₀ := toReal_of_zero hv
      rw [hadd, hu, hv, ha₀, hb₀, add_zero]
      cases s <;> cases t <;> exact rounds_zero _
    · rw [hadd, hu, ha₀, zero_add, hv]
      change Rounds _ (packed (.finite t n f hn))
      rw [← hv, packed_unpack]
      exact rounds_self hb
  · rcases isFinite_cases hb with ⟨t, hv⟩ | ⟨t, n, f, hn, hv, -, -⟩
    · have hb₀ := toReal_of_zero hv
      rw [hadd, hv, hb₀, add_zero, hu]
      change Rounds _ (packed (.finite s m e hm))
      rw [← hu, packed_unpack]
      exact rounds_self ha
    · have hsum : toReal a + toReal b = ((s.apply (decreaseExponent m e (min e f)).1 +
          t.apply (decreaseExponent n f (min e f)).1 : ℤ) : ℝ) * 2 ^ (min e f) := by
        push_cast
        rw [add_mul, aligned s m (min_le_left e f), aligned t n (min_le_right e f), toReal, toReal, hu, hv]
        rfl
      rw [hadd, hu, hv, hsum]
      exact rounds_normalize _ _

omit ha hb in
theorem sub_eq_add (a b : Float) : a - b = a + -b := by
  have hsub : a - b = packed (UnpackedFloat.sub .binary64 a.toModel.unpack b.toModel.unpack) := rfl
  have hadd : a + -b = packed (UnpackedFloat.add .binary64 a.toModel.unpack (-b).toModel.unpack) := rfl
  rw [hsub, hadd, unpack_neg]
  cases a.toModel.unpack with
  | finite s m e hm =>
    cases b.toModel.unpack with
    | finite t n f hn =>
      have happly (j k : ℤ) : s.apply j - t.apply k = s.apply j + (-t).apply k := by
        cases t
        · exact sub_neg_eq_add _ k
        · exact sub_eq_add_neg _ k
      exact congrArg (fun k => packed (UnpackedFloat.normalize .binary64 k (min e f) .positive)) (happly _ _)
    | _ => rfl
  | _ => cases b.toModel.unpack <;> rfl

theorem rounds_sub : Rounds (toReal a - toReal b) (a - b) := by
  rw [sub_eq_add]
  have := rounds_add ha ((isFinite_neg b).trans hb)
  rwa [toReal_neg, ← sub_eq_add_neg] at this

end

/-! ## Products, quotients and roots -/

theorem le_place_of_le {y : ℝ} {e : ℤ} (h : 2 ^ (e + 52) ≤ y) : e ≤ place y := by
  have hpos : 0 < y := (two_zpow_pos _).trans_le h
  have hlog : e + 52 ≤ Int.log 2 y := (Int.zpow_le_iff_le_log one_lt_two hpos).mp h
  rw [place, abs_of_pos hpos]
  omega

theorem add_le_place {m n : ℕ} (e f : ℤ) (h : 2 ^ 52 ≤ m * n) : e + f ≤ place ((m * 2 ^ e) * (n * 2 ^ f)) := by
  apply le_place_of_le
  rw [mul_mul_mul_comm, ← zpow_add₀ two_ne_zero, add_comm, zpow_add₀ two_ne_zero]
  exact mul_le_mul_of_nonneg_right (by exact_mod_cast h) (two_zpow_pos _).le

theorem rounds_roundWithAccuracy (s : Sign) {m : ℕ} {e : ℤ} {a : Accuracy} {x y : ℝ} (hy : 0 < y)
    (ha : StandsFor (.ofMantissaAndAccuracy m a) x) (hxy : x * 2 ^ e = y) (he : e ≤ place y) :
    Rounds (signed s y) (packed (roundWithAccuracy .binary64 s m e a)) := by
  subst hxy
  have hx : 0 < x := pos_of_mul_pos_left hy (two_zpow_pos e).le
  exact rounds_of_isRounded hy (isRounded_roundWithAccuracy s hx ha he)

theorem standsFor_div (k : ℕ) {n : ℕ} (hn : 0 < n) :
    StandsFor (.ofMantissaAndAccuracy (k / n) (accuracyOfFraction (k % n) n)) ((k : ℝ) / n) := by
  have hn' : (0 : ℝ) < n := by exact_mod_cast hn
  have hlt : k % n < n := Nat.mod_lt k hn
  have hk : (k : ℝ) / n = (k / n : ℕ) + ((k % n : ℕ) : ℝ) / n := by
    rw [eq_comm, add_div' _ _ _ hn'.ne', div_left_inj' hn'.ne']
    exact_mod_cast Nat.div_add_mod' k n
  generalize k % n = r at hk hlt
  rw [hk]
  have hfraction : (r : ℝ) / n < 1 := (div_lt_one hn').mpr (by exact_mod_cast hlt)
  unfold accuracyOfFraction
  split
  · next hr =>
    rw [hr, Nat.cast_zero, zero_div, add_zero]
    exact standsFor_exact _
  · next hr =>
    have hpos : (0 : ℝ) < r / n := div_pos (by exact_mod_cast Nat.pos_of_ne_zero hr) hn'
    rcases lt_trichotomy (2 * r) n with h | h | h
    · have hhalf : (r : ℝ) / n < 1 / 2 := by
        rw [div_lt_div_iff₀ hn' two_pos, one_mul, mul_comm]
        exact_mod_cast h
      rw [Nat.compare_eq_lt.mpr h]
      exact ⟨lt_add_of_pos_right _ hpos, (add_lt_add_iff_left _).mpr hhalf⟩
    · have hhalf : (r : ℝ) / n = 1 / 2 := by
        rw [div_eq_div_iff hn'.ne' two_ne_zero, one_mul, mul_comm]
        exact_mod_cast h
      rw [Nat.compare_eq_eq.mpr h, hhalf]
      rfl
    · have hhalf : 1 / 2 < (r : ℝ) / n := by
        rw [div_lt_div_iff₀ two_pos hn', one_mul, mul_comm]
        exact_mod_cast h
      rw [Nat.compare_eq_gt.mpr h]
      exact ⟨(add_lt_add_iff_left _).mpr hhalf, (add_lt_add_iff_left _).mpr hfraction⟩

theorem two_zpow_log2_le {m : ℕ} (hm : 0 < m) (e : ℤ) : (2 : ℝ) ^ ((m.log2 : ℤ) + e) ≤ m * 2 ^ e := by
  rw [zpow_add₀ two_ne_zero]
  exact mul_le_mul_of_nonneg_right (by exact_mod_cast Nat.log2_self_le hm.ne') (two_zpow_pos e).le

theorem lt_two_zpow_log2 (m : ℕ) (e : ℤ) : (m : ℝ) * 2 ^ e < 2 ^ ((m.log2 : ℤ) + 1 + e) := by
  rw [zpow_add₀ two_ne_zero]
  exact mul_lt_mul_of_pos_right (by exact_mod_cast Nat.lt_log2_self) (two_zpow_pos e)

section
variable (s t : Sign) {m n : ℕ} (hm : 0 < m) (hn : 0 < n) (e f : ℤ)

/-- Of mantissas that have enough digits together, or lie at the last place of all. -/
theorem rounds_product (hplace : e + f ≤ place ((m * 2 ^ e) * (n * 2 ^ f))) :
    Rounds (signed s (m * 2 ^ e) * signed t (n * 2 ^ f))
      (packed (UnpackedFloat.mul .binary64 (.finite s m e hm) (.finite t n f hn))) := by
  have hvalue : ((m * n : ℕ) : ℝ) * 2 ^ (e + f) = (m * 2 ^ e) * (n * 2 ^ f) := by
    rw [zpow_add₀ two_ne_zero]
    push_cast
    ring
  have hpos : (0 : ℝ) < (m * 2 ^ e) * (n * 2 ^ f) := by positivity
  rw [← signed_mul]
  exact rounds_roundWithAccuracy (s * t) hpos (standsFor_exact _) hvalue hplace

theorem div_finite :
    let core := divCore .binary64 m e n f
    UnpackedFloat.div .binary64 (.finite s m e hm) (.finite t n f hn) =
      roundWithAccuracy .binary64 (s / t) core.1 core.2.1 core.2.2 := rfl

theorem rounds_quotient :
    Rounds (signed s (m * 2 ^ e) / signed t (n * 2 ^ f))
      (packed (UnpackedFloat.div .binary64 (.finite s m e hm) (.finite t n f hn))) := by
  -- the dividend is lengthened until the quotient has all digits in front of the last place
  set p := min (e - f) (Format.binary64.targetExponent (totalExponent m e - totalExponent n f)) with hp
  obtain ⟨k, hk⟩ := Int.eq_ofNat_of_zero_le (sub_nonneg.mpr (min_le_left (e - f) _ : p ≤ e - f))
  have hcore : divCore .binary64 m e n f =
      (m * 2 ^ k / n, p, accuracyOfFraction (m * 2 ^ k % n) n) := by
    rw [divCore, ← hp, hk, Nat.shiftLeft_eq]
    rfl
  have hvalue : ((m * 2 ^ k : ℕ) : ℝ) / n * 2 ^ p = m * 2 ^ e / (n * 2 ^ f) := by
    have hexp : e = k + p + f := by omega
    rw [hexp, zpow_add₀ two_ne_zero, zpow_add₀ two_ne_zero, zpow_natCast, ← mul_assoc, ← mul_assoc,
      mul_div_mul_right _ _ (two_zpow_pos f).ne']
    push_cast
    ring
  have hplace : p ≤ place ((m : ℝ) * 2 ^ e / (n * 2 ^ f)) := by
    have hlow : (2 : ℝ) ^ ((m.log2 : ℤ) + e - ((n.log2 : ℤ) + 1 + f)) ≤ m * 2 ^ e / (n * 2 ^ f) := by
      rw [zpow_sub₀ two_ne_zero]
      exact div_le_div₀ (by positivity) (two_zpow_log2_le hm e) (by positivity) (lt_two_zpow_log2 n f).le
    have hlog : (m.log2 : ℤ) + e - ((n.log2 : ℤ) + 1 + f) - 52 ≤ place ((m : ℝ) * 2 ^ e / (n * 2 ^ f)) :=
      le_place_of_le (by rwa [sub_add_cancel])
    have hleast := le_place ((m : ℝ) * 2 ^ e / (n * 2 ^ f))
    have hright : p ≤ max ((m.log2 : ℤ) + 1 + e - ((n.log2 : ℤ) + 1 + f) - 53) (-1074) := min_le_right _ _
    omega
  rw [← signed_div, div_finite, hcore]
  exact rounds_roundWithAccuracy (s / t) (by positivity) (standsFor_div _ hn) hvalue hplace

end

section
variable {a b : Float} (ha : a.isFinite = true) (hb : b.isFinite = true)
include ha hb

theorem rounds_mul : Rounds (toReal a * toReal b) (a * b) := by
  have hmul : a * b = packed (UnpackedFloat.mul .binary64 a.toModel.unpack b.toModel.unpack) := rfl
  rcases isFinite_cases ha with ⟨s, hu⟩ | ⟨s, m, e, hm, hu, hd, -⟩
  · have ha₀ := toReal_of_zero hu
    rw [hmul, hu, ha₀, zero_mul]
    rcases isFinite_cases hb with ⟨t, hv⟩ | ⟨t, n, f, hn, hv, -, -⟩ <;> rw [hv] <;> exact rounds_zero _
  · rcases isFinite_cases hb with ⟨t, hv⟩ | ⟨t, n, f, hn, hv, hd', -⟩
    · have hb₀ := toReal_of_zero hv
      rw [hmul, hu, hv, hb₀, mul_zero]
      exact rounds_zero _
    · have hplace : e + f ≤ place ((m * 2 ^ e) * (n * 2 ^ f)) := by
        by_cases hfull : 2 ^ 52 ≤ m * n
        · exact add_le_place e f hfull
        · -- both factors are short, which they are at the last place of all only
          have he : e = -1074 := hd.full.resolve_left fun h => hfull (h.trans (Nat.le_mul_of_pos_right m hn))
          have hf : f = -1074 := hd'.full.resolve_left fun h => hfull (h.trans (Nat.le_mul_of_pos_left n hm))
          have := le_place ((m * 2 ^ e) * (n * 2 ^ f) : ℝ)
          omega
      rw [hmul, toReal, toReal, hu, hv]
      exact rounds_product s t hm hn e f hplace

theorem rounds_div (hb₀ : toReal b ≠ 0) : Rounds (toReal a / toReal b) (a / b) := by
  have hdiv : a / b = packed (UnpackedFloat.div .binary64 a.toModel.unpack b.toModel.unpack) := rfl
  rcases isFinite_cases hb with ⟨t, hv⟩ | ⟨t, n, f, hn, hv, -, -⟩
  · exact absurd (toReal_of_zero hv) hb₀
  rcases isFinite_cases ha with ⟨s, hu⟩ | ⟨s, m, e, hm, hu, -, -⟩
  · have ha₀ := toReal_of_zero hu
    rw [hdiv, hu, hv, ha₀, zero_div]
    exact rounds_zero _
  · rw [hdiv, toReal, toReal, hu, hv]
    exact rounds_quotient s t hm hn e f

end

theorem standsFor_sqrt (k : ℕ) :
    StandsFor (.ofMantissaAndAccuracy k.sqrt
      (if k - k.sqrt * k.sqrt = 0 then .exact else .inexact (if k - k.sqrt * k.sqrt ≤ k.sqrt then .lt else .gt)))
      (√(k : ℝ)) := by
  have hle := Nat.sqrt_le k
  have hlt : k < (k.sqrt + 1) * (k.sqrt + 1) := Nat.lt_succ_sqrt k
  generalize k.sqrt = r at hle hlt ⊢
  split
  · next hz =>
    have hk : (k : ℝ) = r * r := by exact_mod_cast (show k = r * r by omega)
    rw [hk, Real.sqrt_mul_self (Nat.cast_nonneg r)]
    exact standsFor_exact r
  · next hz =>
    have hlow : (r : ℝ) < √k := by
      rw [Real.lt_sqrt (Nat.cast_nonneg r), sq]
      exact_mod_cast (show r * r < k by omega)
    split
    · next hr =>
      have hk : (k : ℝ) ≤ r * r + r := by exact_mod_cast (show k ≤ r * r + r by omega)
      have hhalf : √(k : ℝ) < r + 1 / 2 := by
        rw [Real.sqrt_lt' (by positivity)]
        linarith
      exact ⟨hlow, hhalf⟩
    · next hr =>
      have hk : (r : ℝ) * r + r + 1 ≤ k := by exact_mod_cast (show r * r + r + 1 ≤ k by omega)
      have hhalf : (r : ℝ) + 1 / 2 < √k := by
        rw [Real.lt_sqrt (by positivity)]
        linarith
      have hnext : √(k : ℝ) < r + 1 := by
        rw [Real.sqrt_lt' (by positivity), sq]
        exact_mod_cast hlt
      exact ⟨hhalf, hnext⟩

theorem sqrt_finite {m : ℕ} (hm : 0 < m) (e : ℤ) :
    let core := sqrtCore .binary64 m e
    UnpackedFloat.sqrt .binary64 (.finite .positive m e hm) =
      roundWithAccuracy .binary64 .positive core.1 core.2.1 core.2.2 := rfl

/-- The root of what is below zero is no number; otherwise it is rounded as the other operations are. -/
theorem rounds_sqrt {a : Float} (ha : a.isFinite = true) (hnonneg : 0 ≤ toReal a) : Rounds (√(toReal a)) a.sqrt := by
  have hsqrt : a.sqrt = packed (UnpackedFloat.sqrt .binary64 a.toModel.unpack) := rfl
  rcases isFinite_cases ha with ⟨s, hu⟩ | ⟨s, m, e, hm, hu, -, -⟩
  · have ha₀ := toReal_of_zero hu
    rw [hsqrt, hu, ha₀, Real.sqrt_zero]
    exact rounds_zero s
  have hpos : (0 : ℝ) < m * 2 ^ e := by positivity
  obtain rfl : s = .positive := by
    cases s
    · rw [toReal, hu, real_finite, signed] at hnonneg
      linarith
    · rfl
  -- the mantissa is lengthened by an even power of two until its root has all digits in front of the last place
  set p := min (e.ediv 2) (Format.binary64.targetExponent ((totalExponent m e + 1).ediv 2)) with hp
  have htwice : 2 * p ≤ e := by
    have : p ≤ e / 2 := min_le_left _ _
    omega
  obtain ⟨k, hk⟩ := Int.eq_ofNat_of_zero_le (sub_nonneg.mpr htwice)
  have hroot : √((m * 2 ^ k : ℕ) : ℝ) * 2 ^ p = √(m * 2 ^ e) := by
    have hexp : e = k + p * 2 := by omega
    have hsquare : (m : ℝ) * 2 ^ e = (m * 2 ^ k : ℕ) * (2 ^ p) ^ 2 := by
      rw [hexp, zpow_add₀ two_ne_zero, zpow_mul, zpow_natCast]
      push_cast
      exact (mul_assoc ..).symm
    rw [hsquare, Real.sqrt_mul (Nat.cast_nonneg _), Real.sqrt_sq (two_zpow_pos p).le]
  have hcore : sqrtCore .binary64 m e = ((m * 2 ^ k).sqrt, p,
      if m * 2 ^ k - (m * 2 ^ k).sqrt * (m * 2 ^ k).sqrt = 0 then .exact else
        .inexact (if m * 2 ^ k - (m * 2 ^ k).sqrt * (m * 2 ^ k).sqrt ≤ (m * 2 ^ k).sqrt then .lt else .gt)) := by
    rw [sqrtCore, ← hp, hk, Nat.shiftLeft_eq]
    rfl
  have hplace : p ≤ place (√(m * 2 ^ e)) := by
    have hlow : (2 : ℝ) ^ (((m.log2 : ℤ) + e) / 2) ≤ √(m * 2 ^ e) := by
      apply Real.le_sqrt_of_sq_le
      rw [← zpow_natCast, ← zpow_mul]
      exact (zpow_le_zpow_right₀ one_le_two (by omega)).trans (two_zpow_log2_le hm e)
    have hlog : ((m.log2 : ℤ) + e) / 2 - 52 ≤ place (√(m * 2 ^ e)) := le_place_of_le (by rwa [sub_add_cancel])
    have hleast := le_place (√((m : ℝ) * 2 ^ e))
    have hright : p ≤ max (((m.log2 : ℤ) + 1 + e + 1) / 2 - 53) (-1074) := min_le_right _ _
    omega
  rw [hsqrt, toReal, hu, sqrt_finite, hcore]
  exact rounds_roundWithAccuracy .positive (Real.sqrt_pos.mpr hpos) (standsFor_sqrt _) hroot hplace

/-! ## Natural numbers -/

theorem rounds_toFloat (n : UInt64) : Rounds n.toNat n.toFloat := by
  have h := rounds_normalize n.toNat 0
  rw [zpow_zero, mul_one, Int.cast_natCast] at h
  exact h

theorem abs_natCast_lt {n : ℕ} (hn : n < 2 ^ 53) : |(n : ℝ)| < overflow := by
  rw [Nat.abs_cast]
  exact lt_overflow (by exact_mod_cast hn.le)

theorem toReal_toFloat {n : UInt64} (hn : n.toNat < 2 ^ 53) :
    n.toFloat.isFinite = true ∧ toReal n.toFloat = n.toNat := by
  obtain ⟨hfinite, hreal⟩ := (rounds_toFloat n).finite (abs_natCast_lt hn)
  exact ⟨hfinite, hreal.trans (nearest_of_representable (representable_natCast hn.le))⟩

theorem toReal_natCast {n : ℕ} (hn : n < 2 ^ 53) : (n : Float).isFinite = true ∧ toReal (n : Float) = n := by
  -- the literal is a word times one
  have hone : toReal (Float.ofBits 0x3FF0000000000000) = 1 := by
    change signed .positive ((2 ^ 52 : ℕ) * 2 ^ (-52 : ℤ)) = 1
    norm_num [signed]
  have hcast : (n : Float) = n.toUInt64.toFloat * Float.ofBits 0x3FF0000000000000 := by
    change Float.ofScientific n false 0 = _
    unfold Float.ofScientific
    rw [dif_pos ⟨hn, by decide⟩]
    rfl
  have hword : n.toUInt64.toNat = n := Nat.mod_eq_of_lt (hn.trans (by norm_num))
  obtain ⟨hfinite, hreal⟩ := toReal_toFloat (n := n.toUInt64) (by rwa [hword])
  have hproduct := rounds_mul hfinite (show (Float.ofBits 0x3FF0000000000000).isFinite = true by decide)
  rw [hreal, hone, mul_one, hword, ← hcast] at hproduct
  obtain ⟨h₁, h₂⟩ := hproduct.finite (abs_natCast_lt hn)
  exact ⟨h₁, h₂.trans (nearest_of_representable (representable_natCast hn.le))⟩

/-! ## Beyond the doubles -/

theorem isFinite_packed {u : UnpackedFloat} (h : u.isFinite = false) : (packed u).isFinite = false := by
  cases u with
  | notANumber => rfl
  | infinity s => cases s <;> rfl
  | zero s => cases h
  | finite s m e hm => cases h

theorem mul_not_finite {u : UnpackedFloat} (h : u.isFinite = false) (v : UnpackedFloat) :
    (UnpackedFloat.mul .binary64 u v).isFinite = false ∧ (UnpackedFloat.mul .binary64 v u).isFinite = false := by
  cases u with
  | notANumber => cases v <;> exact ⟨rfl, rfl⟩
  | infinity s => cases v <;> exact ⟨rfl, rfl⟩
  | zero s => cases h
  | finite s m e hm => cases h

theorem isFinite_of_mul {a b : Float} (h : (a * b).isFinite = true) : a.isFinite = true ∧ b.isFinite = true := by
  have hmul : a * b = packed (UnpackedFloat.mul .binary64 a.toModel.unpack b.toModel.unpack) := rfl
  rw [hmul] at h
  rw [isFinite_eq, isFinite_eq]
  constructor <;> by_contra hnot <;> rw [Bool.not_eq_true] at hnot
  · exact Bool.false_ne_true ((isFinite_packed (mul_not_finite hnot _).1).symm.trans h)
  · exact Bool.false_ne_true ((isFinite_packed (mul_not_finite hnot _).2).symm.trans h)

theorem isFinite_div_zero (a : Float) {b : Float} (hb : b.isFinite = true) (hzero : toReal b = 0) :
    (a / b).isFinite = false := by
  have hdiv : a / b = packed (UnpackedFloat.div .binary64 a.toModel.unpack b.toModel.unpack) := rfl
  rcases isFinite_cases hb with ⟨t, hv⟩ | ⟨t, n, f, hn, hv, -, -⟩
  · rw [hdiv, hv]
    apply isFinite_packed
    cases a.toModel.unpack <;> rfl
  · have hpos : (0 : ℝ) < n * 2 ^ f := by positivity
    rw [toReal, hv, real_finite, ← abs_eq_zero, abs_signed, abs_of_pos hpos] at hzero
    exact absurd hzero hpos.ne'

/-- What is finite divided by what is infinite. -/
theorem div_infinity {a b : Float} {t : Sign} (ha : a.isFinite = true) (hb : b.toModel.unpack = .infinity t) :
    (a / b).isFinite = true ∧ toReal (a / b) = 0 := by
  have hdiv : a / b = packed (UnpackedFloat.div .binary64 a.toModel.unpack b.toModel.unpack) := rfl
  have hzero : ∃ s, a / b = packed (.zero s) := by
    rw [hdiv, hb]
    rcases isFinite_cases ha with ⟨s, hu⟩ | ⟨s, m, e, hm, hu, -, -⟩ <;> rw [hu] <;> exact ⟨_, rfl⟩
  obtain ⟨s, hs⟩ := hzero
  rw [hs]
  cases s <;> exact ⟨rfl, rfl⟩

/-- What is infinite remains so when something is added that is not below zero. -/
theorem add_infinity {a b : Float} (ha : a.toModel.unpack = .infinity .positive)
    (hb : b.isFinite = true ∨ b.toModel.unpack = .infinity .positive) :
    (a + b).toModel.unpack = .infinity .positive ∧ (b + a).toModel.unpack = .infinity .positive := by
  have hadd {c d : Float} (h : UnpackedFloat.add .binary64 c.toModel.unpack d.toModel.unpack = .infinity .positive) :
      (c + d).toModel.unpack = .infinity .positive := by
    change (packed (UnpackedFloat.add .binary64 c.toModel.unpack d.toModel.unpack)).toModel.unpack = _
    rw [h]
    rfl
  constructor <;> apply hadd <;> rw [ha]
  all_goals
    rcases hb with hb | hb
    · rcases isFinite_cases hb with ⟨t, hv⟩ | ⟨t, n, f, hn, hv, -, -⟩ <;> rw [hv] <;> rfl
    · rw [hb]
      rfl

theorem sqrt_infinity {a : Float} (ha : a.toModel.unpack = .infinity .positive) :
    a.sqrt.toModel.unpack = .infinity .positive := by
  have hsqrt : a.sqrt = packed (UnpackedFloat.sqrt .binary64 a.toModel.unpack) := rfl
  rw [hsqrt, ha]
  rfl

end PhasePortrait.Double
