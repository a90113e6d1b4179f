import PhasePortrait.Proofs.Acceptance
import PhasePortrait.Proofs.Operations

/-! # What literals stand for

A written number stands for the double nearest to it. Short ones are the quotient of two doubles, which is rounded once,
and long ones are divided digit by digit; of numbers so small that they are not divided at all nothing is left.
-/
namespace PhasePortrait

namespace Double
open Float.Model Float.Model.UnpackedFloat
open Float (exactlyRepresentablePowersOfTen)

/-! ## Powers of ten -/

theorem powersOfTen_eq (i : Fin exactlyRepresentablePowersOfTen.size) :
    exactlyRepresentablePowersOfTen[i] = packed (.round .binary64 .positive (10 ^ i.val) 0) := by
  decide +kernel +revert

theorem representable_ten_pow {k : ℕ} (hk : k ≤ 22) : Representable (10 ^ k) := by
  refine ⟨5 ^ k, k, ?_, by omega, ?_⟩
  · rw [abs_of_pos (pow_pos (by norm_num) k)]
    exact (pow_le_pow_right₀ (by norm_num) hk).trans (by norm_num)
  · rw [zpow_natCast]
    push_cast
    rw [← mul_pow]
    norm_num

theorem ten_pow_lt_overflow {k : ℕ} (hk : k ≤ 22) : (10 : ℝ) ^ k < overflow := by
  calc (10 : ℝ) ^ k ≤ 10 ^ 22 := pow_le_pow_right₀ (by norm_num) hk
    _ ≤ 2 ^ (74 : ℤ) := by norm_num
    _ ≤ 2 ^ (1023 : ℤ) := zpow_le_zpow_right₀ one_le_two (by norm_num)
    _ < overflow := two_zpow_1023_lt_overflow

theorem toReal_powerOfTen {k : ℕ} (hk : k < exactlyRepresentablePowersOfTen.size) :
    exactlyRepresentablePowersOfTen[k].isFinite = true ∧ toReal exactlyRepresentablePowersOfTen[k] = 10 ^ k := by
  have hle : k ≤ 22 := Nat.le_of_lt_succ hk
  have hpos : 0 < 10 ^ k := Nat.pow_pos (by decide)
  have hrounds := rounds_of_isRounded (by positivity) (isRounded_round .positive hpos 0)
  have hdouble : exactlyRepresentablePowersOfTen[k] = _ := powersOfTen_eq ⟨k, hk⟩
  rw [← hdouble, zpow_zero, mul_one, signed] at hrounds
  push_cast at hrounds
  obtain ⟨hfinite, hreal⟩ := hrounds.finite (by rw [abs_of_pos (by positivity)]; exact ten_pow_lt_overflow hle)
  exact ⟨hfinite, hreal.trans (nearest_of_representable (representable_ten_pow hle))⟩

/-! ## Decimal fractions -/

/-- A fraction with so many decimals that already their number exceeds that of all binary places is rounded to 0. -/
theorem rounds_small {m k : ℕ} (h : 2048 + m.log2 < k) : Rounds (m / 10 ^ k) (packed (.zero .positive)) := by
  have hnonneg : 0 ≤ (m : ℝ) / 10 ^ k := by positivity
  have hlt : (m : ℝ) / 10 ^ k < 2 ^ (-1076 : ℤ) := by
    have hm : (m : ℝ) < 2 ^ (m.log2 + 1) := by exact_mod_cast Nat.lt_log2_self
    have hk : (2 : ℝ) ^ (m.log2 + 1 + 1076) ≤ 10 ^ k :=
      (pow_le_pow_right₀ one_le_two (by omega)).trans (pow_le_pow_left₀ two_pos.le (by norm_num) k)
    rw [div_lt_iff₀ (by positivity), zpow_neg, inv_mul_eq_div, lt_div_iff₀ (two_zpow_pos _)]
    refine lt_of_lt_of_le ?_ hk
    rw [pow_add]
    exact mul_lt_mul_of_pos_right hm (by positivity)
  have hbound : |(m : ℝ) / 10 ^ k| < overflow := by
    rw [abs_of_nonneg hnonneg]
    exact hlt.trans_le ((zpow_le_zpow_right₀ one_le_two (by norm_num)).trans two_zpow_1023_lt_overflow.le)
  refine ⟨fun _ => ?_, fun hle => absurd hbound hle.not_gt⟩
  rw [nearest_eq_zero hnonneg hlt]
  exact (rounds_zero .positive).eq_zero

/-- A whole number is multiplied by 1 with a mantissa long enough for all digits of the product. -/
theorem rounds_whole {m : ℕ} (hm : 0 < m) (hm' : 0 < m <<< 53) :
    Rounds m (packed (UnpackedFloat.mul .binary64 (.finite .positive (m <<< 53) (-53) hm')
      (.finite .positive 1 0 one_pos))) := by
  have hvalue : (m : ℝ) =
      signed .positive ((m <<< 53 : ℕ) * 2 ^ (-53 : ℤ)) * signed .positive ((1 : ℕ) * 2 ^ (0 : ℤ)) := by
    rw [Nat.shiftLeft_eq, signed, signed, Nat.cast_one, one_mul, zpow_zero, mul_one, zpow_neg,
      eq_mul_inv_iff_mul_eq₀ (by positivity)]
    norm_num
  have hplace : -53 + 0 ≤ place ((m <<< 53 : ℕ) * 2 ^ (-53 : ℤ) * ((1 : ℕ) * 2 ^ (0 : ℤ))) := by
    apply add_le_place
    rw [Nat.shiftLeft_eq]
    omega
  rw [hvalue]
  exact rounds_product .positive .positive hm' one_pos (-53) 0 hplace

theorem rounds_fraction {m n : ℕ} (hm : 0 < m) (hn : 0 < n) :
    Rounds (m / n) (packed (UnpackedFloat.div .binary64 (.finite .positive m 0 hm) (.finite .positive n 0 hn))) := by
  have h := rounds_quotient .positive .positive hm hn 0 0
  rwa [zpow_zero, mul_one, mul_one] at h

theorem rounds_ofScientific_model (m k : ℕ) :
    Rounds (m / 10 ^ k) (packed (UnpackedFloat.ofScientific .binary64 m (-k))) := by
  rcases Nat.eq_zero_or_pos m with rfl | hm
  · rw [Nat.cast_zero, zero_div]
    exact rounds_zero .positive
  have hlarge : ¬(-k : ℤ) > 2 ^ Format.binary64.exponentBits := by
    have : (0 : ℤ) < 2 ^ Format.binary64.exponentBits := by positivity
    omega
  unfold UnpackedFloat.ofScientific
  rw [dif_neg hm.ne', if_neg hlarge]
  by_cases hsmall : (-k : ℤ) < -(2 ^ Format.binary64.exponentBits + m.log2)
  · rw [if_pos hsmall]
    change (-k : ℤ) < -(2048 + m.log2) at hsmall
    exact rounds_small (by omega)
  rw [if_neg hsmall]
  by_cases hk : 0 ≤ (-k : ℤ)
  · obtain rfl : k = 0 := by omega
    rw [if_pos hk, pow_zero, div_one]
    exact rounds_whole hm _
  · have hdecimals : (-(-k : ℤ)).toNat = k := by omega
    have hpower : ((10 ^ (-(-k : ℤ)).toNat : ℕ) : ℝ) = 10 ^ k := by rw [hdecimals, Nat.cast_pow, Nat.cast_ofNat]
    rw [if_neg hk, ← hpower]
    exact rounds_fraction hm _

theorem rounds_ofScientific (m k : ℕ) : Rounds (m / 10 ^ k) (Float.ofScientific m true k) := by
  unfold Float.ofScientific
  split
  · next h =>
    have hword : m.toUInt64.toNat = m := Nat.mod_eq_of_lt (h.1.trans (by norm_num))
    obtain ⟨hfinite, hreal⟩ := toReal_toFloat (n := m.toUInt64) (by rw [hword]; exact h.1)
    obtain ⟨hfinite', hreal'⟩ := toReal_powerOfTen (k := k) (Nat.lt_succ_of_le h.2)
    have hdiv := rounds_div hfinite hfinite' (by rw [hreal']; positivity)
    rwa [hreal, hreal', hword] at hdiv
  · have hk : Int.negOfNat k = -k := by cases k <;> rfl
    change Rounds _ (packed (UnpackedFloat.ofScientific .binary64 m (Int.negOfNat k)))
    rw [hk]
    exact rounds_ofScientific_model m k

end Double

/-- A literal is the double nearest to what its digits stand for in the decimal system. -/
theorem rounds_literalValue (whole fraction : List Char) :
    Double.Rounds (Nat.ofDigitChars 10 whole 0 + Nat.ofDigitChars 10 fraction 0 / 10 ^ fraction.length)
      (literalValue whole fraction) := by
  have hdigits : ((decimalNat (whole ++ fraction) : ℕ) : ℝ) / 10 ^ fraction.length =
      Nat.ofDigitChars 10 whole 0 + Nat.ofDigitChars 10 fraction 0 / 10 ^ fraction.length := by
    have happend : decimalNat (whole ++ fraction) =
        10 ^ fraction.length * Nat.ofDigitChars 10 whole 0 + Nat.ofDigitChars 10 fraction 0 :=
      (Nat.ofDigitChars_append 0).trans Nat.ofDigitChars_eq_ofDigitChars_zero
    rw [happend]
    push_cast
    rw [add_div, mul_div_cancel_left₀ _ (by positivity)]
  rw [← hdigits]
  exact Double.rounds_ofScientific _ _

/-! ## Accepted texts -/

/-- A text is accepted with a tree exactly if it has at most 4096 bytes and is a formula with this tree
in which at most 64 parentheses are open at once; no text is a formula with two trees. The constants in a tree
are the doubles nearest to the numbers that the digits stand for. -/
theorem parse_eq_ok_iff (text : String) (e : Expr) :
    (parse text = .ok e ↔ text.utf8ByteSize ≤ 4096 ∧ IsFormula 64 text.toList e) ∧
    (∀ e', IsFormula 64 text.toList e → IsFormula 64 text.toList e' → e = e') ∧
    ∀ whole fraction, Double.Rounds
      (Nat.ofDigitChars 10 whole 0 + Nat.ofDigitChars 10 fraction 0 / 10 ^ fraction.length)
      (literalValue whole fraction) :=
  ⟨accepts_iff text e, fun _ h h' => h.unique h', rounds_literalValue⟩

/-- A whole number in a product and a decimal fraction behind a sign. -/
theorem parse_eq_ok_iff_difference :
    let e : Expr := .binary .sub (.binary .mul (.var .x) (.const 20)) (.negate (.const 0.1))
    IsFormula 64 "x*20 - -(0.1) ".toList e ∧ parse "x*20 - -(0.1) " = .ok e ∧
    (∀ e', IsFormula 64 "x*20 - -(0.1) ".toList e' → e = e') ∧
    Double.Rounds 20 20 ∧ Double.Rounds (1 / 10) 0.1 := by
  intro e
  have hwhole : literalValue ['2', '0'] [] = 20 := by decide +kernel
  have hdecimal : literalValue ['0'] ['1'] = 0.1 := by decide +kernel
  have hblank : Blank [' '] := List.forall_mem_singleton.mpr (by decide)
  have hx : Derives .term 64 ['x'] (.var .x) := .ofFactor (.ofPrimary (.variable (v := .x) blank_nil))
  have hdigits : Digits ['2', '0'] := ⟨by simp, by simp [Char.isDigit]⟩
  have hfront : Digits ['0'] := ⟨by simp, by simp [Char.isDigit]⟩
  have hbehind : Digits ['1'] := ⟨by simp, by simp [Char.isDigit]⟩
  have htwenty : Derives .primary 64 ['2', '0'] (.const 20) := hwhole ▸ .whole blank_nil hdigits
  have htenth : Derives .primary 63 ['0', '.', '1'] (.const 0.1) := hdecimal ▸ .decimal blank_nil hfront hbehind
  have hproduct : Derives .expression 64 "x*20".toList (.binary .mul (.var .x) (.const 20)) :=
    .ofTerm (.product hx blank_nil (.inl rfl) (.ofPrimary htwenty))
  have hgroup : Derives .primary 64 "(0.1)".toList (.const 0.1) :=
    .group blank_nil (.ofTerm (.ofFactor (.ofPrimary htenth))) blank_nil
  have hsigned : Derives .term 64 " -(0.1)".toList (.negate (.const 0.1)) := .ofFactor (.negate hblank hgroup)
  have hf : IsFormula 64 "x*20 - -(0.1) ".toList e :=
    ⟨_, [' '], .sum hproduct hblank (.inr rfl) hsigned, hblank, by decide⟩
  obtain ⟨hparse, hunique, hliteral⟩ := parse_eq_ok_iff "x*20 - -(0.1) " e
  have h₁ := hliteral ['2', '0'] []
  have h₂ := hliteral ['0'] ['1']
  have hvalue : Nat.ofDigitChars 10 ['2', '0'] 0 = 20 := by decide
  have hvalue' : Nat.ofDigitChars 10 ['1'] 0 = 1 := by decide
  rw [hwhole, hvalue] at h₁
  rw [hdecimal, hvalue'] at h₂
  norm_num [Nat.ofDigitChars] at h₁ h₂
  exact ⟨hf, hparse.mpr ⟨by decide, hf⟩, fun e' h => hunique e' hf h, h₁, h₂⟩

end PhasePortrait
