import PhasePortrait.Proofs.Negation
import PhasePortrait.Proofs.Rounding

/-! # Mantissas

Operations on doubles compute a mantissa of more digits than a double has, and two bits for what lies behind. Shifting
it to the last place and rounding it there gives the digits of the nearest double, and packing them loses nothing
unless the exponent is too large, which gives an infinite double.
-/
namespace PhasePortrait.Double
open Float.Model Float.Model.UnpackedFloat

/-! ## Shifting to the last place -/

theorem StandsFor.shiftRightOne {em : ExtendedMantissa} {x : ℝ} (h : StandsFor em x) :
    StandsFor em.shiftRightOne (x / 2) := by
  obtain ⟨m, r, s⟩ := em
  have hm : (m : ℝ) = 2 * (m / 2 : ℕ) + (m % 2 : ℕ) := by exact_mod_cast (Nat.div_add_mod m 2).symm
  rcases Nat.mod_two_eq_zero_or_one m with h₂ | h₂ <;> rw [h₂] at hm <;> cases r <;> cases s <;>
    simp [StandsFor, ExtendedMantissa.shiftRightOne, h₂] at h hm ⊢ <;> (try constructor) <;> linarith

theorem StandsFor.shiftRight {em : ExtendedMantissa} {x : ℝ} (h : StandsFor em x) (n : ℕ) :
    StandsFor (em >>> n) (x / 2 ^ n) := by
  induction n with
  | zero =>
    rw [pow_zero, div_one]
    exact h
  | succ n ih =>
    rw [pow_succ, ← div_div]
    exact ih.shiftRightOne

theorem targetExponent_eq (m : ℕ) (e : ℤ) :
    Format.binary64.targetExponent (totalExponent m e) = max ((m.log2 : ℤ) + e - 52) (-1074) := by
  change max ((m.log2 : ℤ) + 1 + e - 53) (-1074) = _
  congr 1
  ring

theorem log_mul_two_zpow {m : ℕ} (hm : 0 < m) {x : ℝ} (h₁ : (m : ℝ) ≤ x) (h₂ : x < m + 1) (e : ℤ) :
    Int.log 2 |x * 2 ^ e| = m.log2 + e := by
  have hx : 0 < x := lt_of_lt_of_le (by exact_mod_cast hm) h₁
  have hpos : 0 < x * 2 ^ e := mul_pos hx (two_zpow_pos e)
  have hlow : (2 : ℝ) ^ (m.log2 : ℤ) ≤ x := by
    refine le_trans ?_ h₁
    exact_mod_cast Nat.log2_self_le hm.ne'
  have hhigh : x < 2 ^ ((m.log2 : ℤ) + 1) := by
    refine lt_of_lt_of_le h₂ ?_
    exact_mod_cast Nat.lt_log2_self
  rw [abs_of_pos hpos]
  apply le_antisymm
  · rw [← Int.lt_add_one_iff, ← Int.lt_zpow_iff_log_lt one_lt_two hpos, add_right_comm]
    push_cast
    rw [zpow_add₀ two_ne_zero]
    exact mul_lt_mul_of_pos_right hhigh (two_zpow_pos e)
  · rw [← Int.zpow_le_iff_le_log one_lt_two hpos]
    push_cast
    rw [zpow_add₀ two_ne_zero]
    exact mul_le_mul_of_nonneg_right hlow (two_zpow_pos e).le

/-- The exponent that a mantissa is shifted to is that of the last place of the number. -/
theorem targetExponent_eq_place {m : ℕ} {x : ℝ} (hx : 0 < x) (h₁ : (m : ℝ) ≤ x) (h₂ : x < m + 1) {e : ℤ}
    (he : 0 < m ∨ e ≤ place (x * 2 ^ e)) :
    Format.binary64.targetExponent (totalExponent m e) = place (x * 2 ^ e) := by
  rw [targetExponent_eq]
  rcases Nat.eq_zero_or_pos m with rfl | hm
  · -- the number has no digit in front of the place `e`, so this place is behind the last one of all
    have hlt : Int.log 2 |x * 2 ^ e| < e := by
      have hpos : 0 < x * 2 ^ e := mul_pos hx (two_zpow_pos e)
      rw [abs_of_pos hpos, ← Int.lt_zpow_iff_log_lt one_lt_two hpos]
      push_cast
      exact mul_lt_of_lt_one_left (two_zpow_pos e) (by simpa using h₂)
    have he' := he.resolve_left (lt_irrefl 0)
    unfold place at he' ⊢
    rw [Nat.log2_zero]
    omega
  · rw [place, log_mul_two_zpow hm h₁ h₂]


/-- The digits of a double: fifty-three of them, or fewer at the last place of all. -/
structure Digits (m : ℕ) (e : ℤ) : Prop where
  lt : m < 2 ^ 53
  least : -1074 ≤ e
  full : 2 ^ 52 ≤ m ∨ e = -1074

/-- Carrying out of the leading digit moves the point; otherwise nothing is to be shifted. -/
theorem shift_rounded {m : ℕ} {e : ℤ} (hm : m ≤ 2 ^ 53) (he : -1074 ≤ e) :
    shiftToTargetExponent .binary64 m e .exact =
      if m < 2 ^ 53 then (⟨m, false, false⟩, e) else (⟨2 ^ 52, false, false⟩, e + 1) := by
  have hshift (n : ℕ) (hn : (max ((m.log2 : ℤ) + e - 52) (-1074) - e).toNat = n) :
      shiftToTargetExponent .binary64 m e .exact =
        (ExtendedMantissa.ofMantissaAndAccuracy m .exact >>> n, e + n) := by
    rw [← hn, ← targetExponent_eq]
    rfl
  split
  · next hlt =>
    have hlog : m.log2 ≤ 52 := by
      rcases Nat.eq_zero_or_pos m with rfl | hpos
      · rw [Nat.log2_zero]
        omega
      · exact Nat.le_of_lt_succ ((Nat.log2_lt hpos.ne').mpr hlt)
    rw [hshift 0 (by omega), Nat.cast_zero, add_zero]
    rfl
  · next hge =>
    obtain rfl : m = 2 ^ 53 := by omega
    rw [hshift 1 (by rw [Nat.log2_two_pow]; omega)]
    rfl

/-- The digits are those of the double nearest to the magnitude `y`, whatever the sign. -/
inductive IsRounded (s : Sign) (y : ℝ) : UnpackedFloat → Prop
  | zero : nearest y = 0 → IsRounded s y (.zero s)
  | finite {m : ℕ} {e : ℤ} (hm : 0 < m) : Digits m e → nearest y = m * 2 ^ e → IsRounded s y (.finite s m e hm)

theorem isRounded_roundWithAccuracy (s : Sign) {m : ℕ} {e : ℤ} {a : Accuracy} {x : ℝ} (hx : 0 < x)
    (ha : StandsFor (.ofMantissaAndAccuracy m a) x) (he : e ≤ place (x * 2 ^ e)) :
    IsRounded s (x * 2 ^ e) (roundWithAccuracy .binary64 s m e a) := by
  have hm : (ExtendedMantissa.ofMantissaAndAccuracy m a).mantissa = m := by
    rcases a with _ | (_ | _ | _) <;> rfl
  have hle := ha.le
  have hlt := ha.lt
  rw [hm] at hle hlt
  have htarget := targetExponent_eq_place hx hle hlt (.inr he)
  have hpos : 0 < x * 2 ^ e := mul_pos hx (two_zpow_pos e)
  generalize hy : x * 2 ^ e = y at he htarget hpos
  -- the first shift leads to the last place, where the mantissa is rounded
  obtain ⟨n, hn⟩ := Int.eq_ofNat_of_zero_le (sub_nonneg.mpr he)
  have hfirst : shiftToTargetExponent .binary64 m e a =
      (ExtendedMantissa.ofMantissaAndAccuracy m a >>> n, place y) := by
    have hsum : e + (place y - e).toNat = place y := by omega
    have hcount : (place y - e).toNat = n := by omega
    rw [shiftToTargetExponent, htarget, ← hcount]
    exact Prod.ext rfl hsum
  have hscaled : x / 2 ^ n = y / 2 ^ place y := by
    have hexp : place y = e + n := by omega
    rw [hexp, zpow_add₀ two_ne_zero, ← hy, mul_comm, mul_div_mul_left _ _ (two_zpow_pos e).ne', zpow_natCast]
  have hr := (ha.shiftRight n).roundEven_eq
  rw [hscaled] at hr
  generalize (ExtendedMantissa.ofMantissaAndAccuracy m a >>> n) = em at hfirst hr
  have hupper : em.roundedMantissa ≤ 2 ^ 53 := by
    have := le_of_abs_le (abs_digits_le y)
    rw [hr] at this
    exact_mod_cast this
  have hvalue : nearest y = em.roundedMantissa * 2 ^ place y := by rw [nearest, hr, Int.cast_natCast]
  unfold roundWithAccuracy
  rw [hfirst]
  dsimp only
  rw [shift_rounded hupper (le_place y)]
  have hfull : 2 ^ 52 ≤ em.roundedMantissa ∨ place y = -1074 := by
    by_cases hp : place y = -1074
    · exact .inr hp
    · have := le_digits hpos hp
      rw [hr] at this
      exact .inl (by exact_mod_cast this)
  by_cases hsmall : em.roundedMantissa < 2 ^ 53
  · rw [if_pos hsmall]
    dsimp only
    by_cases hz : em.roundedMantissa = 0
    · rw [dif_pos hz]
      exact .zero (by rw [hvalue, hz, Nat.cast_zero, zero_mul])
    · rw [dif_neg hz]
      exact .finite _ ⟨hsmall, le_place y, hfull⟩ hvalue
  · have hcarry : em.roundedMantissa = 2 ^ 53 := by omega
    rw [if_neg hsmall]
    refine .finite _ ⟨by norm_num, ?_, .inl le_rfl⟩ ?_
    · have := le_place y
      omega
    · rw [hvalue, hcarry, zpow_add_one₀ two_ne_zero]
      push_cast
      ring

/-- A mantissa of any exponent, which may have more digits than a double or fewer. -/
theorem isRounded_round (s : Sign) {m : ℕ} (hm : 0 < m) (e : ℤ) :
    IsRounded s (m * 2 ^ e) (UnpackedFloat.round .binary64 s m e) := by
  have hx : (0 : ℝ) < m := by exact_mod_cast hm
  have htarget := targetExponent_eq_place hx le_rfl (lt_add_one (m : ℝ)) (e := e) (.inl hm)
  -- the mantissa is lengthened as far as needed
  set n := (e - place ((m : ℝ) * 2 ^ e)).toNat with hn
  have hvalue : ((m <<< n : ℕ) : ℝ) * 2 ^ (e - n) = m * 2 ^ e := by
    rw [Nat.shiftLeft_eq, Nat.cast_mul, Nat.cast_pow, Nat.cast_ofNat, ← zpow_natCast, mul_assoc,
      ← zpow_add₀ two_ne_zero, add_sub_cancel]
  have hround : UnpackedFloat.round .binary64 s m e = roundWithAccuracy .binary64 s (m <<< n) (e - n) .exact := by
    rw [UnpackedFloat.round, htarget]
    rfl
  have hpos : (0 : ℝ) < (m <<< n : ℕ) := by
    rw [Nat.shiftLeft_eq]
    exact_mod_cast Nat.mul_pos hm (Nat.two_pow_pos n)
  rw [hround, ← hvalue]
  refine isRounded_roundWithAccuracy s hpos (standsFor_exact _) ?_
  rw [hvalue]
  omega

/-! ## Packing -/

theorem finite_eq_value (s : Sign) {m : ℕ} {e : ℤ} (hm : 0 < m) (h : Digits m e) (he : e ≤ 971) :
    ∃ (E : BitVec 11) (M : BitVec 52), .finite s m e hm = value s E M := by
  rcases lt_or_ge m (2 ^ 52) with hsmall | hfull
  · obtain rfl : e = -1074 := h.full.resolve_left (by omega)
    have hM : (BitVec.ofNat 52 m).toNat = m := by rw [BitVec.toNat_ofNat, Nat.mod_eq_of_lt hsmall]
    have hne : BitVec.ofNat 52 m ≠ 0#52 := by
      intro hz
      rw [hz, BitVec.toNat_zero] at hM
      omega
    refine ⟨0#11, BitVec.ofNat 52 m, ?_⟩
    rw [value, if_neg (by decide), if_pos rfl, dif_neg hne, UnpackedFloat.finite.injEq]
    exact ⟨rfl, hM.symm, rfl⟩
  · have hlt := h.lt
    have hleast := h.least
    have hE : (BitVec.ofNat 11 (e + 1075).toNat).toNat = (e + 1075).toNat := by
      rw [BitVec.toNat_ofNat, Nat.mod_eq_of_lt (by omega)]
    have hM : (BitVec.ofNat 52 (m - 2 ^ 52)).toNat = m - 2 ^ 52 := by
      rw [BitVec.toNat_ofNat, Nat.mod_eq_of_lt (by omega)]
    refine ⟨BitVec.ofNat 11 (e + 1075).toNat, BitVec.ofNat 52 (m - 2 ^ 52), ?_⟩
    have h₁ : BitVec.ofNat 11 (e + 1075).toNat ≠ -1#11 := by
      intro hz
      rw [hz, show (-1#11).toNat = 2047 by decide] at hE
      omega
    have h₂ : BitVec.ofNat 11 (e + 1075).toNat ≠ 0#11 := by
      intro hz
      rw [hz, BitVec.toNat_zero] at hE
      omega
    have hm' : 2 ^ 52 + (m - 2 ^ 52) = m := by omega
    have he' : ((e + 1075).toNat : ℤ) - 1075 = e := by omega
    rw [value, if_neg h₁, if_neg h₂, UnpackedFloat.finite.injEq, hE, hM, hm', he']
    exact ⟨rfl, rfl, rfl⟩

theorem unpack_pack_finite (s : Sign) {m : ℕ} {e : ℤ} (hm : 0 < m) (h : Digits m e) (he : e ≤ 971) :
    UnpackedFloat.unpack .binary64 (UnpackedFloat.pack .binary64 (.finite s m e hm)) = .finite s m e hm := by
  obtain ⟨E, M, hvalue⟩ := finite_eq_value s hm h he
  rw [hvalue, unpack_pack_value]

theorem unpack_pack_overflow (s : Sign) {m : ℕ} {e : ℤ} (hm : 0 < m) (he : 972 ≤ e) :
    UnpackedFloat.unpack .binary64 (UnpackedFloat.pack .binary64 (.finite s m e hm)) = .infinity s := by
  have hbiased : 2 ^ 11 ≤ (e + 1023 + 52).toNat + 1 := by omega
  rw [pack_finite, if_pos hbiased, packedInfinity, unpack_packComponents]
  rfl

theorem digits_of_unpack {a : Float} {s : Sign} {m : ℕ} {e : ℤ} {hm : 0 < m}
    (h : a.toModel.unpack = .finite s m e hm) : Digits m e ∧ e ≤ 971 := by
  obtain ⟨s', E, M, hvalue⟩ : ∃ s E M, a.toModel.unpack = value s E M := ⟨_, _, _, unpack_eq_value _⟩
  rw [hvalue] at h
  have hM := M.isLt
  have hE := E.isLt
  rcases value_cases s' E M with ⟨-, -, hv⟩ | ⟨-, -, hv⟩ | ⟨-, -, hv⟩ | ⟨-, -, hpos, hv⟩ | ⟨h₁, h₂, hpos, hv⟩ <;>
    rw [hv] at h <;> cases h
  · exact ⟨⟨by omega, le_rfl, .inr rfl⟩, by omega⟩
  · have h₁' : E.toNat ≠ 2047 := fun hz => h₁ (BitVec.eq_of_toNat_eq hz)
    have h₂' : E.toNat ≠ 0 := fun hz => h₂ (BitVec.eq_of_toNat_eq hz)
    exact ⟨⟨by omega, by omega, .inl (by omega)⟩, by omega⟩

end PhasePortrait.Double
