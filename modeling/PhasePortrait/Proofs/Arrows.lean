import PhasePortrait.Field.Arrow
import PhasePortrait.Proofs.Operations

/-! # Arrows along a velocity

The components of a velocity are divided by the root of the sum of their squares. Where this sum is a double other
than 0, its root is the length of the velocity up to a small factor, although the squares themselves may be far from
exact, and there is an arrow. Where the sum overflows or underflows there is none.
-/
namespace PhasePortrait

namespace Double

/-! ## The sum of squares and its root -/

/-- The double nearest to the sum of the doubles nearest to two squares. -/
noncomputable def squares (p q : ℝ) : ℝ := nearest (nearest (p * p) + nearest (q * q))

theorem squares_comm (p q : ℝ) : squares p q = squares q p := by rw [squares, add_comm, squares]

theorem representable_squares (p q : ℝ) : Representable (squares p q) := representable_nearest _

theorem nearest_le_squares (p q : ℝ) : nearest (p * p) ≤ squares p q :=
  le_nearest (representable_nearest _) (le_add_of_nonneg_right (nearest_nonneg (mul_self_nonneg q)))

theorem square_le_squares {p q : ℝ} (h : 0 < squares p q) : p * p ≤ 2 * squares p q := by
  have hlower := nearest_lower (mul_self_nonneg p)
  have hsum := nearest_le_squares p q
  have hplace := place_le_of_pos (representable_squares p q) h
  have htwice := twice_place.2
  have hp := mul_self_nonneg p
  linarith

theorem squares_le {p q : ℝ} (h : 0 < squares p q) (hle : |q| ≤ |p|) : squares p q ≤ 9 * (p * p) := by
  have hp := mul_self_nonneg p
  have hq : q * q ≤ p * p := by
    rw [← abs_mul_abs_self p, ← abs_mul_abs_self q]
    exact mul_self_le_mul_self (abs_nonneg q) hle
  have hlarge : (2 : ℝ) ^ (-1076 : ℤ) ≤ p * p := by
    by_contra hlt
    rw [squares, nearest_eq_zero hp (not_le.mp hlt),
      nearest_eq_zero (mul_self_nonneg q) (hq.trans_lt (not_le.mp hlt)), add_zero, nearest_zero] at h
    exact lt_irrefl 0 h
  have hfirst := nearest_upper hp
  have hsecond := nearest_upper (mul_self_nonneg q)
  have hsum : squares p q ≤ _ :=
    nearest_upper (add_nonneg (nearest_nonneg hp) (nearest_nonneg (mul_self_nonneg q)))
  have htwice := twice_place.1
  linarith

theorem root_bounds {z : ℝ} (hz : Representable z) (h : 0 < z) :
    9 / 10 * √z ≤ nearest √z ∧ nearest √z ≤ 11 / 10 * √z := by
  have hroot : (2 : ℝ) ^ (-537 : ℤ) ≤ √z := by
    apply Real.le_sqrt_of_sq_le
    rw [← zpow_natCast, ← zpow_mul]
    exact place_le_of_pos hz h
  have hplace : (2 : ℝ) ^ (-1075 : ℤ) ≤ 2 ^ (-538 : ℤ) * √z := by
    rw [show (-1075 : ℤ) = -538 + -537 by norm_num, zpow_add₀ two_ne_zero]
    exact mul_le_mul_of_nonneg_left hroot (two_zpow_pos _).le
  have hpos := Real.sqrt_nonneg z
  have hpart : (2 : ℝ) ^ (-538 : ℤ) ≤ 2 ^ (-4 : ℤ) := zpow_le_zpow_right₀ one_le_two (by norm_num)
  have hsmall : (2 : ℝ) ^ (-538 : ℤ) * √z ≤ 1 / 16 * √z :=
    mul_le_mul_of_nonneg_right (hpart.trans_eq (by norm_num)) hpos
  have hupper := nearest_upper hpos
  have hlower := nearest_lower hpos
  constructor <;> linarith

/-- The rounded root is between a quarter of the longer side and, up to a factor of two, any side. -/
theorem norm_bounds {p q : ℝ} (h : 0 < squares p q) :
    0 < nearest √(squares p q) ∧ |p| ≤ 2 * nearest √(squares p q) ∧
      (|q| ≤ |p| → nearest √(squares p q) ≤ 4 * |p|) := by
  obtain ⟨hlower, hupper⟩ := root_bounds (representable_squares p q) h
  have hroot := Real.sqrt_pos.mpr h
  have hsquare := Real.mul_self_sqrt h.le
  generalize √(squares p q) = r at hlower hupper hroot hsquare ⊢
  have hpos : 0 < nearest r := by linarith
  refine ⟨hpos, ?_, fun hle => ?_⟩
  · have hle : |p| ≤ 9 / 5 * r := by
      apply abs_le_of_sq_le_sq _ (by linarith)
      rw [mul_pow, sq r, hsquare, sq p]
      linarith [square_le_squares h]
    linarith
  · have hle : r ≤ 3 * |p| := by
      apply le_of_sq_le_sq _ (by positivity)
      rw [mul_pow, sq_abs, sq r, hsquare, sq p]
      linarith [squares_le h hle]
    linarith [abs_nonneg p]

end Double

open Double

/-- The sum of the squares of the components, the root of which is the norm. -/
def Point.sumOfSquares (v : Point Float) : Float := v.x * v.x + v.y * v.y

theorem sumOfSquares_cases {v : Point Float} (hx : v.x.isFinite = true) (hy : v.y.isFinite = true) :
    (v.sumOfSquares.isFinite = true ∧ toReal v.sumOfSquares = squares (toReal v.x) (toReal v.y)) ∨
      v.sumOfSquares.toModel.unpack = .infinity .positive := by
  have hxx := mul_self_nonneg (toReal v.x)
  have hyy := mul_self_nonneg (toReal v.y)
  rcases (rounds_mul hx hx).nonneg_cases hxx with ⟨hfirst, hfirst'⟩ | hfirst <;>
    rcases (rounds_mul hy hy).nonneg_cases hyy with ⟨hsecond, hsecond'⟩ | hsecond
  · have hsum := rounds_add hfirst hsecond
    rw [hfirst', hsecond'] at hsum
    exact hsum.nonneg_cases (add_nonneg (nearest_nonneg hxx) (nearest_nonneg hyy))
  · exact .inr (add_infinity hsecond (.inl hfirst)).2
  · exact .inr (add_infinity hfirst (.inl hsecond)).1
  · exact .inr (add_infinity hfirst (.inr hsecond)).1

theorem toReal_sumOfSquares {v : Point Float} (hx : v.x.isFinite = true) (hy : v.y.isFinite = true)
    (h : v.sumOfSquares.isFinite = true) : toReal v.sumOfSquares = squares (toReal v.x) (toReal v.y) := by
  rcases sumOfSquares_cases hx hy with ⟨-, hreal⟩ | hinfinite
  · exact hreal
  · rw [isFinite_eq, hinfinite] at h
    cases h

/-! ## One component -/

section
variable {c n l : Float} (hc : c.isFinite = true) (hn : n.isFinite = true) (hl : l.isFinite = true)
include hc hn hl

theorem component_le (hpos : 0 < toReal n) (hle : |toReal c| ≤ 2 * toReal n) (hl₀ : 0 ≤ toReal l)
    (hl₁ : toReal l ≤ 2 ^ (1000 : ℤ)) :
    (c / n).isFinite = true ∧ (c / n * l).isFinite = true ∧ |toReal (c / n * l)| ≤ 2 * toReal l := by
  have htwo : Representable 2 := by exact_mod_cast representable_natCast (n := 2) (by norm_num)
  have hquotient : |toReal c / toReal n| ≤ 2 := by
    rwa [abs_div, abs_of_pos hpos, div_le_iff₀ hpos]
  obtain ⟨hq, hq'⟩ := (rounds_div hc hn hpos.ne').abs_le htwo hquotient (lt_overflow (by norm_num))
  have hproduct : |toReal (c / n) * toReal l| ≤ 2 * toReal l := by
    rw [abs_mul, abs_of_nonneg hl₀]
    exact mul_le_mul_of_nonneg_right hq' hl₀
  have hlt : 2 * toReal l < overflow := by
    have hdouble : 2 * toReal l ≤ 2 ^ (1001 : ℤ) := by
      rw [show (1001 : ℤ) = 1 + 1000 by norm_num, zpow_one_add₀ two_ne_zero]
      linarith
    exact (hdouble.trans (zpow_le_zpow_right₀ one_le_two (by norm_num))).trans_lt two_zpow_1023_lt_overflow
  obtain ⟨hp, hp'⟩ := (rounds_mul hq hl).abs_le (representable_toReal l).twice hproduct hlt
  exact ⟨hq, hp, hp'⟩

theorem component_ne_zero (hpos : 0 < toReal n) (hge : toReal n ≤ 4 * |toReal c|) (hl₁ : 2 ^ (-1000 : ℤ) ≤ toReal l)
    (hq : (c / n).isFinite = true) (hp : (c / n * l).isFinite = true) : toReal (c / n * l) ≠ 0 := by
  have hquotient : 2 ^ (-2 : ℤ) ≤ |toReal c / toReal n| := by
    rw [abs_div, abs_of_pos hpos, le_div_iff₀ hpos]
    norm_num
    linarith
  have hq' := (rounds_div hc hn hpos.ne').le_abs hq (representable_two_zpow (by norm_num)) hquotient
  have hproduct : 2 ^ (-1002 : ℤ) ≤ |toReal (c / n) * toReal l| := by
    rw [abs_mul, show (-1002 : ℤ) = -2 + -1000 by norm_num, zpow_add₀ two_ne_zero]
    exact mul_le_mul hq' (hl₁.trans (le_abs_self _)) (two_zpow_pos _).le (abs_nonneg _)
  have hp' := (rounds_mul hq hl).le_abs hp (representable_two_zpow (by norm_num)) hproduct
  exact abs_pos.mp ((two_zpow_pos _).trans_le hp')

end

/-! ## Arrows -/

/-- The components are finite and at most twice the length, and they are not both 0. -/
structure Proper (length : Float) (d : Point Float) : Prop where
  finite : d.x.isFinite = true ∧ d.y.isFinite = true
  le : |toReal d.x| ≤ 2 * toReal length ∧ |toReal d.y| ≤ 2 * toReal length
  nonzero : toReal d.x ≠ 0 ∨ toReal d.y ≠ 0

theorem direction_eq (v : Point Float) (length : Float) :
    direction v length = ⟨v.x / v.sumOfSquares.sqrt * length, v.y / v.sumOfSquares.sqrt * length⟩ := rfl

section
variable {v : Point Float} {length : Float} (hx : v.x.isFinite = true) (hy : v.y.isFinite = true)
include hx hy

/-- The norm is infinite, and a quotient by it is 0. -/
theorem direction_of_overflow (hl : length.isFinite = true) (h : v.sumOfSquares.isFinite = false) :
    ∀ d ∈ (direction v length).toList, d.isFinite = true ∧ toReal d = 0 := by
  have hs : v.sumOfSquares.toModel.unpack = .infinity .positive := by
    refine (sumOfSquares_cases hx hy).resolve_left fun hs => ?_
    rw [h] at hs
    cases hs.1
  have hvanishes {c : Float} (hc : c.isFinite = true) :
      (c / v.sumOfSquares.sqrt * length).isFinite = true ∧ toReal (c / v.sumOfSquares.sqrt * length) = 0 := by
    obtain ⟨hq, hq'⟩ := div_infinity hc (sqrt_infinity hs)
    have hproduct := rounds_mul hq hl
    rw [hq', zero_mul] at hproduct
    exact hproduct.eq_zero
  rw [direction_eq]
  exact List.forall_mem_cons.mpr ⟨hvanishes hx, List.forall_mem_cons.mpr ⟨hvanishes hy, nofun⟩⟩

omit hx hy in
/-- The norm is 0, and a quotient by it is not finite. -/
theorem direction_of_underflow (hs : v.sumOfSquares.isFinite = true) (hzero : toReal v.sumOfSquares = 0) :
    ∀ d ∈ (direction v length).toList, d.isFinite = false := by
  have hroot := rounds_sqrt hs hzero.ge
  rw [hzero, Real.sqrt_zero] at hroot
  obtain ⟨hn, hn'⟩ := hroot.eq_zero
  have hinfinite (c : Float) : (c / v.sumOfSquares.sqrt * length).isFinite = false := by
    by_contra hfinite
    rw [Bool.not_eq_false] at hfinite
    exact Bool.false_ne_true ((isFinite_div_zero c hn hn').symm.trans (isFinite_of_mul hfinite).1)
  rw [direction_eq]
  exact List.forall_mem_cons.mpr ⟨hinfinite v.x, List.forall_mem_cons.mpr ⟨hinfinite v.y, nofun⟩⟩

theorem proper_of_sumOfSquares (hlow : 2 ^ (-1000 : ℤ) ≤ toReal length) (hhigh : toReal length ≤ 2 ^ (1000 : ℤ))
    (hs : v.sumOfSquares.isFinite = true) (hne : toReal v.sumOfSquares ≠ 0) : Proper length (direction v length) := by
  have hreal := toReal_sumOfSquares hx hy hs
  have hpos : 0 < squares (toReal v.x) (toReal v.y) := by
    refine lt_of_le_of_ne (nearest_nonneg (add_nonneg ?_ ?_)) (hreal ▸ hne.symm) <;>
      exact nearest_nonneg (mul_self_nonneg _)
  have hroot := rounds_sqrt hs (hreal ▸ hpos.le)
  rw [hreal] at hroot
  have hbound : |√(squares (toReal v.x) (toReal v.y))| < overflow := by
    have hone : 1 ≤ overflow := (lt_overflow (by norm_num)).le
    have hlt : squares (toReal v.x) (toReal v.y) < overflow := hreal ▸ (le_abs_self _).trans_lt (abs_toReal_lt _)
    rw [abs_of_nonneg (Real.sqrt_nonneg _), Real.sqrt_lt' overflow_pos, sq]
    exact hlt.trans_le (le_mul_of_one_le_left overflow_pos.le hone)
  obtain ⟨hn, hn'⟩ := hroot.finite hbound
  obtain ⟨hnpos, hxle, hxge⟩ := norm_bounds hpos
  obtain ⟨-, hyle, hyge⟩ := norm_bounds (squares_comm _ _ ▸ hpos)
  rw [squares_comm] at hyle hyge
  rw [← hn'] at hnpos hxle hxge hyle hyge
  have hlength := isFinite_of_toReal_ne_zero ((two_zpow_pos _).trans_le hlow).ne'
  have hnonneg := ((two_zpow_pos _).trans_le hlow).le
  obtain ⟨hqx, hpx, hx'⟩ := component_le hx hn hlength hnpos hxle hnonneg hhigh
  obtain ⟨hqy, hpy, hy'⟩ := component_le hy hn hlength hnpos hyle hnonneg hhigh
  refine ⟨⟨hpx, hpy⟩, ⟨hx', hy'⟩, ?_⟩
  -- the longer component does not vanish
  rcases le_total |toReal v.y| |toReal v.x| with hle | hle
  · exact .inl (component_ne_zero hx hn hlength hnpos (hxge hle) hlow hqx hpx)
  · exact .inr (component_ne_zero hy hn hlength hnpos (hyge hle) hlow hqy hpy)

theorem proper_iff (hlow : 2 ^ (-1000 : ℤ) ≤ toReal length) (hhigh : toReal length ≤ 2 ^ (1000 : ℤ)) :
    Proper length (direction v length) ↔ v.sumOfSquares.isFinite = true ∧ toReal v.sumOfSquares ≠ 0 := by
  have hl := isFinite_of_toReal_ne_zero ((two_zpow_pos _).trans_le hlow).ne'
  constructor
  · intro h
    have hfinite := h.finite.1
    have hnonzero := h.nonzero
    by_cases hs : v.sumOfSquares.isFinite = true
    · refine ⟨hs, fun hzero => ?_⟩
      rw [direction_of_underflow hs hzero _ (List.mem_cons_self ..)] at hfinite
      cases hfinite
    · have hvanishes := direction_of_overflow hx hy hl (Bool.eq_false_of_not_eq_true hs)
      rcases hnonzero with hne | hne
      · exact absurd (hvanishes _ (List.mem_cons_self ..)).2 hne
      · exact absurd (hvanishes _ (List.mem_cons_of_mem _ (List.mem_cons_self ..))).2 hne
  · rintro ⟨hs, hne⟩
    exact proper_of_sumOfSquares hx hy hlow hhigh hs hne

/-! ## Ranges of velocities -/

omit hx hy in
theorem le_squares {p : ℝ} (q : ℝ) {e : ℤ} (he : -537 ≤ e) (h : 2 ^ e ≤ |p|) : 2 ^ (2 * e) ≤ squares p q := by
  have hsquare : (2 : ℝ) ^ (2 * e) ≤ p * p := by
    rw [two_mul, zpow_add₀ two_ne_zero, ← abs_mul_abs_self p]
    exact mul_self_le_mul_self (two_zpow_pos e).le h
  have hfirst := le_nearest (representable_two_zpow (by omega)) hsquare
  exact hfirst.trans (nearest_le_squares p q)

theorem sumOfSquares_of_moderate (hx' : |toReal v.x| ≤ 2 ^ (511 : ℤ)) (hy' : |toReal v.y| ≤ 2 ^ (511 : ℤ))
    (h : 2 ^ (-537 : ℤ) ≤ |toReal v.x| ∨ 2 ^ (-537 : ℤ) ≤ |toReal v.y|) :
    v.sumOfSquares.isFinite = true ∧ toReal v.sumOfSquares ≠ 0 := by
  have hproduct {c : Float} (hc : c.isFinite = true) (hle : |toReal c| ≤ 2 ^ (511 : ℤ)) :
      (c * c).isFinite = true ∧ |toReal (c * c)| ≤ 2 ^ (1022 : ℤ) := by
    refine (rounds_mul hc hc).abs_le (representable_two_zpow (by norm_num)) ?_ ?_
    · rw [abs_mul, show (1022 : ℤ) = 511 + 511 by norm_num, zpow_add₀ two_ne_zero]
      exact mul_self_le_mul_self (abs_nonneg _) hle
    · exact (zpow_le_zpow_right₀ one_le_two (by norm_num)).trans_lt two_zpow_1023_lt_overflow
  obtain ⟨hxx, hxx'⟩ := hproduct hx hx'
  obtain ⟨hyy, hyy'⟩ := hproduct hy hy'
  have hsum : |toReal (v.x * v.x) + toReal (v.y * v.y)| ≤ 2 ^ (1023 : ℤ) := by
    refine (abs_add_le _ _).trans ((add_le_add hxx' hyy').trans_eq ?_)
    rw [← two_mul, show (1023 : ℤ) = 1 + 1022 by norm_num, zpow_one_add₀ two_ne_zero]
  have hs := ((rounds_add hxx hyy).abs_le (representable_two_zpow (by norm_num)) hsum two_zpow_1023_lt_overflow).1
  rw [toReal_sumOfSquares hx hy hs]
  refine ⟨hs, ((two_zpow_pos (2 * -537)).trans_le ?_).ne'⟩
  rcases h with h | h
  · exact le_squares _ le_rfl h
  · rw [squares_comm]
    exact le_squares _ le_rfl h

theorem sumOfSquares_of_large (h : 2 ^ (512 : ℤ) ≤ |toReal v.x| ∨ 2 ^ (512 : ℤ) ≤ |toReal v.y|) :
    v.sumOfSquares.isFinite = false := by
  have hlarge : 2 ^ (1024 : ℤ) ≤ squares (toReal v.x) (toReal v.y) := by
    rcases h with h | h
    · exact le_squares _ (by norm_num) h
    · rw [squares_comm]
      exact le_squares _ (by norm_num) h
  by_contra hfinite
  rw [Bool.not_eq_false] at hfinite
  rw [← toReal_sumOfSquares hx hy hfinite] at hlarge
  exact ((le_abs_self _).trans_lt ((abs_toReal_lt _).trans overflow_lt)).not_ge hlarge

theorem sumOfSquares_of_small (hx' : |toReal v.x| < 2 ^ (-538 : ℤ)) (hy' : |toReal v.y| < 2 ^ (-538 : ℤ)) :
    v.sumOfSquares.isFinite = true ∧ toReal v.sumOfSquares = 0 := by
  have hproduct {c : Float} (hc : c.isFinite = true) (hlt : |toReal c| < 2 ^ (-538 : ℤ)) :
      (c * c).isFinite = true ∧ toReal (c * c) = 0 := by
    have hsquare : toReal c * toReal c < 2 ^ (-1076 : ℤ) := by
      rw [← abs_mul_abs_self, show (-1076 : ℤ) = -538 + -538 by norm_num, zpow_add₀ two_ne_zero]
      exact mul_self_lt_mul_self (abs_nonneg _) hlt
    obtain ⟨hfinite, hreal⟩ := (rounds_mul hc hc).finite <| by
      rw [abs_of_nonneg (mul_self_nonneg _)]
      exact hsquare.trans ((zpow_lt_zpow_right₀ one_lt_two (by norm_num)).trans two_zpow_1023_lt_overflow)
    exact ⟨hfinite, hreal.trans (nearest_eq_zero (mul_self_nonneg _) hsquare)⟩
  obtain ⟨hxx, hxx'⟩ := hproduct hx hx'
  obtain ⟨hyy, hyy'⟩ := hproduct hy hy'
  have hsum := rounds_add hxx hyy
  rw [hxx', hyy', add_zero] at hsum
  exact hsum.eq_zero

end

/-- For a velocity of finite components there is an arrow exactly if the sum of their squares is a double that is not 0.
Where the sum overflows the arrow is a point, and where it underflows no component is finite. So there is an arrow along
velocities that are neither very large nor very small, and none along those beyond. -/
theorem direction_proper_iff {v : Point Float} (hx : v.x.isFinite = true) (hy : v.y.isFinite = true) {length : Float}
    (hlow : 2 ^ (-1000 : ℤ) ≤ toReal length) (hhigh : toReal length ≤ 2 ^ (1000 : ℤ)) :
    (Proper length (direction v length) ↔ v.sumOfSquares.isFinite = true ∧ toReal v.sumOfSquares ≠ 0) ∧
    (v.sumOfSquares.isFinite = false → ∀ d ∈ (direction v length).toList, d.isFinite = true ∧ toReal d = 0) ∧
    (v.sumOfSquares.isFinite = true ∧ toReal v.sumOfSquares = 0 →
      ∀ d ∈ (direction v length).toList, d.isFinite = false) ∧
    (|toReal v.x| ≤ 2 ^ (511 : ℤ) ∧ |toReal v.y| ≤ 2 ^ (511 : ℤ) →
      2 ^ (-537 : ℤ) ≤ |toReal v.x| ∨ 2 ^ (-537 : ℤ) ≤ |toReal v.y| → Proper length (direction v length)) ∧
    (2 ^ (512 : ℤ) ≤ |toReal v.x| ∨ 2 ^ (512 : ℤ) ≤ |toReal v.y| → v.sumOfSquares.isFinite = false) ∧
    (|toReal v.x| < 2 ^ (-538 : ℤ) ∧ |toReal v.y| < 2 ^ (-538 : ℤ) →
      v.sumOfSquares.isFinite = true ∧ toReal v.sumOfSquares = 0) := by
  have hl := isFinite_of_toReal_ne_zero ((two_zpow_pos _).trans_le hlow).ne'
  have hiff := proper_iff hx hy hlow hhigh
  refine ⟨hiff, direction_of_overflow hx hy hl, fun h => direction_of_underflow h.1 h.2, ?_,
    sumOfSquares_of_large hx hy, fun h => sumOfSquares_of_small hx hy h.1 h.2⟩
  intro hmost hleast
  exact hiff.mpr (sumOfSquares_of_moderate hx hy hmost.1 hmost.2 hleast)

theorem large_velocity_not_proper :
    let v : Point Float := ⟨1e200, 0⟩
    v.x.isFinite = true ∧ v.y.isFinite = true ∧ (v.x == 0) = false ∧ direction v 1 = ⟨0, 0⟩ ∧
    ¬Proper 1 (direction v 1) := by
  intro v
  have hdirection : direction v 1 = ⟨0, 0⟩ := by decide +kernel
  refine ⟨by decide +kernel, by decide +kernel, by decide +kernel, hdirection, fun h => ?_⟩
  have hnonzero := h.nonzero
  rw [hdirection] at hnonzero
  rcases hnonzero with hne | hne <;> exact hne rfl

/-- A velocity of length five, and one whose norm overflows. -/
theorem direction_proper_iff_five :
    let v : Point Float := ⟨3, 4⟩
    let w : Point Float := ⟨1e200, 0⟩
    v.x.isFinite = true ∧ v.y.isFinite = true ∧ 2 ^ (-1000 : ℤ) ≤ toReal 1 ∧ toReal 1 ≤ 2 ^ (1000 : ℤ) ∧
    direction v 1 = ⟨0.6, 0.8⟩ ∧ Proper 1 ⟨0.6, 0.8⟩ ∧
    w.x.isFinite = true ∧ w.y.isFinite = true ∧ ∀ d ∈ (direction w 1).toList, d.isFinite = true ∧ toReal d = 0 := by
  intro v w
  have hone : toReal 1 = 1 := (toReal_natCast (n := 1) (by norm_num)).2.trans Nat.cast_one
  have hlow : (2 : ℝ) ^ (-1000 : ℤ) ≤ toReal 1 := by
    rw [hone]
    exact zpow_le_one_of_nonpos₀ one_le_two (by norm_num)
  have hhigh : toReal 1 ≤ (2 : ℝ) ^ (1000 : ℤ) := by
    rw [hone]
    exact one_le_zpow₀ one_le_two (by norm_num)
  obtain ⟨hx, hx'⟩ : v.x.isFinite = true ∧ toReal v.x = (3 : ℕ) := toReal_natCast (by norm_num)
  obtain ⟨hy, hy'⟩ : v.y.isFinite = true ∧ toReal v.y = (4 : ℕ) := toReal_natCast (by norm_num)
  have hw : w.x.isFinite = true ∧ w.y.isFinite = true ∧ w.sumOfSquares.isFinite = false := by decide +kernel
  have hdirection : direction v 1 = ⟨0.6, 0.8⟩ := by decide +kernel
  have hmost {n : ℕ} (hn : n ≤ 4) : |(n : ℝ)| ≤ 2 ^ (511 : ℤ) := by
    have hpower : (4 : ℝ) ≤ 2 ^ (2 : ℤ) := by norm_num
    rw [Nat.abs_cast]
    exact (Nat.cast_le.mpr hn).trans (hpower.trans (zpow_le_zpow_right₀ one_le_two (by norm_num)))
  have hleast : (2 : ℝ) ^ (-537 : ℤ) ≤ |((3 : ℕ) : ℝ)| := by
    rw [Nat.abs_cast]
    exact (zpow_le_one_of_nonpos₀ one_le_two (by norm_num)).trans (by norm_num)
  have hproper : Proper 1 (direction v 1) := by
    apply (direction_proper_iff hx hy hlow hhigh).2.2.2.1 <;> rw [hx', hy']
    · exact ⟨hmost (by norm_num), hmost le_rfl⟩
    · exact .inl hleast
  rw [hdirection] at hproper
  exact ⟨hx, hy, hlow, hhigh, hdirection, hproper, hw.1, hw.2.1,
    (direction_proper_iff hw.1 hw.2.1 hlow hhigh).2.1 hw.2.2⟩

end PhasePortrait
