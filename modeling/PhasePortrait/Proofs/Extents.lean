import PhasePortrait.Proofs.Operations
import PhasePortrait.Proofs.Sampling
import PhasePortrait.Proofs.Sizes

/-! # Extents of the rectangle

Settings are accepted if the ends of both sides are finite and in order. The extents, their inverses and the sums of
the ends are doubles only if the ends are not too near to each other, which makes the inverse overflow, and not too far
from 0. Exactly then the view can be used, and all nodes lie in the rectangle: the errors of the three operations that
lead to a node are smaller than half a cell.
-/
namespace PhasePortrait
open Double

theorem toReal_two : (2 : Float).isFinite = true ∧ toReal 2 = 2 := toReal_natCast (n := 2) (by norm_num)

theorem toReal_half : (0.5 : Float).isFinite = true ∧ toReal 0.5 = 1 / 2 := by
  refine ⟨by decide +kernel, ?_⟩
  change signed .positive ((4503599627370496 : ℕ) * 2 ^ (-53 : ℤ)) = 1 / 2
  norm_num [signed]

theorem toReal_zero : (0 : Float).isFinite = true ∧ toReal 0 = 0 := ⟨by decide, rfl⟩

theorem inverse_1024 : (2 : ℝ) ^ (1024 : ℤ) * 2 ^ (-1023 : ℤ) = 2 := by
  rw [← zpow_add₀ two_ne_zero]
  norm_num

/-- The inverse of a small number is beyond all doubles. -/
theorem isFinite_two_div_iff {w : Float} (hw : w.isFinite = true) (hpos : 0 < toReal w) :
    (2 / w).isFinite = true ↔ 2 ^ (-1023 : ℤ) < toReal w := by
  have hquotient := rounds_div toReal_two.1 hw hpos.ne'
  rw [toReal_two.2] at hquotient
  rw [hquotient.isFinite_iff, abs_of_pos (div_pos two_pos hpos), div_lt_iff₀ hpos]
  constructor
  · intro h
    by_contra hle
    have hproduct : overflow * toReal w ≤ 2 ^ (1024 : ℤ) * 2 ^ (-1023 : ℤ) :=
      mul_le_mul overflow_lt.le (not_lt.mp hle) hpos.le (two_zpow_pos _).le
    exact (h.trans_le (hproduct.trans_eq inverse_1024)).false
  · intro h
    have hlow := (representable_two_zpow (by norm_num)).add_place_le (representable_toReal w) h
    have hsplit : (2 : ℝ) ^ (-1023 : ℤ) = 2 ^ (51 : ℤ) * 2 ^ (-1074 : ℤ) := zpow_add₀ two_ne_zero 51 (-1074)
    have hcancel : (2 : ℝ) ^ (971 : ℤ) * 2 ^ (-1074 : ℤ) = 2 ^ (-103 : ℤ) := by rw [← zpow_add₀ two_ne_zero]; rfl
    calc (2 : ℝ) < (2 ^ (53 : ℤ) - 1 / 2) * (2 ^ (51 : ℤ) + 1) * 2 ^ (-103 : ℤ) := by norm_num
      _ = overflow * (2 ^ (-1023 : ℤ) + 2 ^ (-1074 : ℤ)) := by
        rw [overflow_eq, hsplit, ← hcancel]
        ring
      _ ≤ overflow * toReal w := mul_le_mul_of_nonneg_left hlow overflow_pos.le

theorem two_div_pos {w : Float} (hw : w.isFinite = true) (hpos : 0 < toReal w) (h : (2 / w).isFinite = true) :
    0 < toReal (2 / w) := by
  have hquotient := rounds_div toReal_two.1 hw hpos.ne'
  rw [toReal_two.2] at hquotient
  rw [hquotient.toReal_eq h]
  refine (two_zpow_pos (-1023)).trans_le (le_nearest (representable_two_zpow (by norm_num)) ((le_div_iff₀ hpos).mpr ?_))
  have hlt : toReal w ≤ 2 ^ (1024 : ℤ) := (le_abs_self _).trans ((abs_toReal_lt w).trans overflow_lt).le
  calc 2 ^ (-1023 : ℤ) * toReal w ≤ 2 ^ (-1023 : ℤ) * 2 ^ (1024 : ℤ) := mul_le_mul_of_nonneg_left hlt (two_zpow_pos _).le
    _ = 2 := (mul_comm ..).trans inverse_1024

/-- The place of a centre among the cells is exact. -/
theorem toReal_middle {j : ℕ} (hj : j < 250000) :
    ((j : Float) + 0.5).isFinite = true ∧ toReal ((j : Float) + 0.5) = j + 1 / 2 := by
  obtain ⟨hfinite, hreal⟩ := toReal_natCast (n := j) (by omega)
  have hmost : (j : ℝ) < 250000 := by exact_mod_cast hj
  have hmiddle : Representable ((j : ℝ) + 1 / 2) := by
    refine ⟨2 * j + 1, -1, ?_, by norm_num, ?_⟩
    · rw [abs_of_nonneg (by omega)]
      omega
    · push_cast
      norm_num
      ring
  have hsum := rounds_add hfinite toReal_half.1
  rw [hreal, toReal_half.2] at hsum
  obtain ⟨hfinite', hreal'⟩ := hsum.finite <| by
    rw [abs_of_nonneg (by positivity)]
    exact lt_overflow (by linarith)
  exact ⟨hfinite', hreal'.trans (nearest_of_representable hmiddle)⟩

/-- The parts of an extent that a row of cells takes, up to the centre of the last of them, are too few for the errors
of three operations to lead beyond the extent. -/
theorem nearest_part_le {extent c t : ℝ} (hextent : 2 ^ (-1023 : ℤ) < extent) (hc : 1 ≤ c) (hle : c ≤ 250000)
    (ht₀ : 0 ≤ t) (ht : t ≤ c - 1 / 2) :
    0 ≤ nearest (t * nearest (nearest extent / c)) ∧ nearest (t * nearest (nearest extent / c)) ≤ extent := by
  have hplace : (2 : ℝ) ^ (-1075 : ℤ) ≤ 2 ^ (-52 : ℤ) * extent := by
    rw [show (-1075 : ℤ) = -52 + -1023 by norm_num, zpow_add₀ two_ne_zero]
    exact mul_le_mul_of_nonneg_left hextent.le (two_zpow_pos _).le
  have hrounded {y : ℝ} (hy : 0 ≤ y) : nearest y ≤ (1 + 1 / 2 ^ 53) * y + 2 ^ (-52 : ℤ) * extent :=
    (nearest_upper hy).trans (add_le_add_right hplace _)
  have hpos : 0 < extent := (two_zpow_pos _).trans hextent
  have hwidth := hrounded hpos.le
  have hwidth₀ := nearest_nonneg hpos.le
  generalize nearest extent = width at hwidth hwidth₀ ⊢
  have hcell₀ : 0 ≤ width / c := div_nonneg hwidth₀ (by linarith)
  have hcell := hrounded hcell₀
  have hpart₀ := nearest_nonneg hcell₀
  generalize nearest (width / c) = cell at hcell hpart₀ ⊢
  have hrow : c * cell ≤ (1 + 1 / 10 ^ 9) * extent := by
    have hscaled := mul_le_mul_of_nonneg_left hcell (show 0 ≤ c by linarith)
    have hwhole : c * (width / c) = width := mul_div_cancel₀ width (by linarith)
    have hbound : c * extent ≤ 250000 * extent := mul_le_mul_of_nonneg_right hle hpos.le
    rw [mul_add, mul_left_comm, hwhole, mul_left_comm] at hscaled
    norm_num at hscaled hwidth ⊢
    linarith
  have hcentre : t * cell ≤ (1 - 1 / 10 ^ 6) * extent := by
    have hmost : t * cell ≤ (1 - 1 / 500000) * (c * cell) := by
      rw [← mul_assoc]
      exact mul_le_mul_of_nonneg_right (by linarith) hpart₀
    norm_num at hmost hrow ⊢
    linarith
  have hcentre₀ : 0 ≤ t * cell := mul_nonneg ht₀ hpart₀
  refine ⟨nearest_nonneg hcentre₀, (hrounded hcentre₀).trans ?_⟩
  norm_num at hcentre ⊢
  linarith

/-! ## One side -/

/-- Finite and between the ends of a side, the ends included. -/
structure Within (lo hi v : Float) : Prop where
  finite : v.isFinite = true
  ge : lo ≤ v
  le : v ≤ hi

/-- The ends are so far apart that the inverse of their distance is a double, and their magnitudes so small that the sum
of them is. -/
structure Moderate (lo hi : Float) : Prop where
  apart : 2 ^ (-1023 : ℤ) < toReal hi - toReal lo
  together : |toReal lo| + |toReal hi| < overflow

section
variable {lo hi : Float} (hlo : lo.isFinite = true) (hhi : hi.isFinite = true) (h : toReal lo < toReal hi)
include hlo hhi h

theorem isFinite_extent_iff : (hi - lo).isFinite = true ↔ toReal hi - toReal lo < overflow := by
  rw [(rounds_sub hhi hlo).isFinite_iff, abs_of_pos (sub_pos.mpr h)]

/-- Small extents are exact. -/
theorem lt_extent_iff (hfinite : (hi - lo).isFinite = true) {z : ℝ} (hz : z < 2 ^ (-1021 : ℤ)) :
    z < toReal (hi - lo) ↔ z < toReal hi - toReal lo := by
  rw [(rounds_sub hhi hlo).toReal_eq hfinite]
  rcases le_total (toReal hi - toReal lo) (2 ^ (-1021 : ℤ)) with hle | hle
  · have hsmall : |toReal hi - toReal lo| ≤ 2 ^ (-1021 : ℤ) := by rwa [abs_of_pos (sub_pos.mpr h)]
    rw [nearest_of_representable ((representable_toReal hi).sub (representable_toReal lo) hsmall)]
  · have hlarge := le_nearest (representable_two_zpow (e := -1021) (by norm_num)) hle
    exact iff_of_true (hz.trans_le hlarge) (hz.trans_le hle)

theorem scale_usable_iff :
    (2 / (hi - lo)).isFinite = true ∧ 0 < 2 / (hi - lo) ↔
      2 ^ (-1023 : ℤ) < toReal hi - toReal lo ∧ toReal hi - toReal lo < overflow := by
  have hsmall : (2 : ℝ) ^ (-1023 : ℤ) < 2 ^ (-1021 : ℤ) := zpow_lt_zpow_right₀ one_lt_two (by norm_num)
  have hpositive {a : Float} (ha : a.isFinite = true) : 0 < a ↔ 0 < toReal a := by
    rw [lt_iff_toReal toReal_zero.1 ha, toReal_zero.2]
  rw [← isFinite_extent_iff hlo hhi h]
  by_cases hfinite : (hi - lo).isFinite = true
  · have hpos : 0 < toReal (hi - lo) := (lt_extent_iff hlo hhi h hfinite (two_zpow_pos _)).mpr (sub_pos.mpr h)
    rw [← lt_extent_iff hlo hhi h hfinite hsmall, ← isFinite_two_div_iff hfinite hpos]
    refine and_congr_right fun hq => iff_of_true ?_ hfinite
    exact (hpositive hq).mpr (two_div_pos hfinite hpos hq)
  · -- twice the inverse of what is infinite is 0
    have hinfinite := (rounds_sub hhi hlo).infinite (by rwa [(rounds_sub hhi hlo).isFinite_iff, not_lt] at hfinite)
    obtain ⟨hq, hvanishes⟩ := div_infinity toReal_two.1 hinfinite
    refine iff_of_false (fun hboth => ?_) fun hboth => hfinite hboth.2
    exact lt_irrefl (0 : ℝ) (hvanishes ▸ (hpositive hq).mp hboth.2)

omit h in
theorem isFinite_offset_iff : (-(0.5 * (lo + hi))).isFinite = true ↔ |toReal lo + toReal hi| < overflow := by
  have hsum := rounds_add hlo hhi
  rw [isFinite_neg, ← hsum.isFinite_iff]
  refine ⟨fun hproduct => (isFinite_of_mul hproduct).2, fun hfinite => ?_⟩
  rw [(rounds_mul toReal_half.1 hfinite).isFinite_iff, toReal_half.2, abs_mul, abs_of_pos one_half_pos]
  have hnonneg := abs_nonneg (toReal (lo + hi))
  have hlt := abs_toReal_lt (lo + hi)
  linarith

/-- The part of the extent up to the centre of a cell. -/
theorem part_between {j c : ℕ} (hj : j < c) (hc : c ≤ Grid.maxNodes) (hlow : 2 ^ (-1023 : ℤ) < toReal hi - toReal lo)
    (hhigh : toReal hi - toReal lo < overflow) :
    (((j : Float) + 0.5) * ((hi - lo) / (c : Float))).isFinite = true ∧
      0 ≤ toReal (((j : Float) + 0.5) * ((hi - lo) / (c : Float))) ∧
      toReal (((j : Float) + 0.5) * ((hi - lo) / (c : Float))) ≤ toReal hi - toReal lo := by
  have hc' : c ≤ 250000 := hc
  obtain ⟨hcount, hcount'⟩ := toReal_natCast (n := c) (by omega)
  have hone : (1 : ℝ) ≤ c := by exact_mod_cast (show 1 ≤ c by omega)
  have hmost : (c : ℝ) ≤ 250000 := by exact_mod_cast hc'
  have hbelow : (j : ℝ) + 1 / 2 ≤ c - 1 / 2 := by
    have hnext : (j : ℝ) + 1 ≤ c := by exact_mod_cast hj
    linarith
  have hwidth := (isFinite_extent_iff hlo hhi h).mpr hhigh
  obtain ⟨hcell, hcell'⟩ := (rounds_div hwidth hcount (by rw [hcount']; linarith)).finite <| by
    rw [hcount', abs_div, Nat.abs_cast]
    exact (div_le_self (abs_nonneg _) hone).trans_lt (abs_toReal_lt _)
  obtain ⟨hmiddle, hmiddle'⟩ := toReal_middle (j := j) (by omega)
  have hpart := rounds_mul hmiddle hcell
  rw [hmiddle', hcell', hcount', (rounds_sub hhi hlo).toReal_eq hwidth] at hpart
  obtain ⟨hnonneg, hle⟩ := nearest_part_le hlow hone hmost (t := j + 1 / 2) (by positivity) hbelow
  obtain ⟨hfinite, hreal⟩ := hpart.finite <| by
    rw [← abs_nearest_lt_iff, abs_of_nonneg hnonneg]
    exact hle.trans_lt (hhigh.trans overflow_lt)
  rw [hreal]
  exact ⟨hfinite, hnonneg, hle⟩

/-- The centre of a cell lies between the ends of the side. -/
theorem within_node {j c : ℕ} (hj : j < c) (hc : c ≤ Grid.maxNodes) (hlow : 2 ^ (-1023 : ℤ) < toReal hi - toReal lo)
    (hhigh : toReal hi - toReal lo < overflow) : Within lo hi (lo + ((j : Float) + 0.5) * ((hi - lo) / (c : Float))) := by
  obtain ⟨hpart, hnonneg, hle⟩ := part_between hlo hhi h hj hc hlow hhigh
  obtain ⟨hx, hmin, hmax⟩ :=
    (rounds_add hlo hpart).between (le_add_of_nonneg_right hnonneg) (le_sub_iff_add_le'.mp hle)
  exact ⟨hx, (le_iff_toReal hlo hx).mpr hmin, (le_iff_toReal hx hhi).mpr hmax⟩

omit hlo hhi in
/-- A sum of magnitudes is the magnitude of the difference or that of the sum. -/
theorem moderate_iff : Moderate lo hi ↔
    (2 ^ (-1023 : ℤ) < toReal hi - toReal lo ∧ toReal hi - toReal lo < overflow) ∧
      |toReal lo + toReal hi| < overflow := by
  have hmagnitudes : |toReal lo| + |toReal hi| < overflow ↔
      toReal hi - toReal lo < overflow ∧ |toReal lo + toReal hi| < overflow := by
    rw [abs_lt]
    constructor
    · intro hsum
      have hlo' := abs_le.mp (le_refl |toReal lo|)
      have hhi' := abs_le.mp (le_refl |toReal hi|)
      exact ⟨by linarith, by linarith, by linarith⟩
    · rintro ⟨hdifference, hsum⟩
      rcases abs_cases (toReal lo) with hl | hl <;> rcases abs_cases (toReal hi) with hr | hr <;> linarith
  rw [and_assoc, ← hmagnitudes]
  exact ⟨fun hm => ⟨hm.apart, hm.together⟩, fun hm => ⟨hm.1, hm.2⟩⟩

end

/-! ## The view of accepted settings -/

/-- Scale and offset can be applied, and every node of the grid lies in the rectangle. -/
structure Settings.Viewable (s : Settings) : Prop where
  scale : ∀ c ∈ s.bounds.scale.toList, c.isFinite = true ∧ 0 < c
  offset : ∀ c ∈ s.bounds.offset.toList, c.isFinite = true
  nodes : ∀ row < s.grid.rows.toNat, ∀ col < s.grid.cols.toNat,
    Within s.bounds.minX s.bounds.maxX (s.grid.node s.bounds row col).x ∧
      Within s.bounds.minY s.bounds.maxY (s.grid.node s.bounds row col).y

theorem FormulaPair.exists_node_of_mem_arrows (f : FormulaPair) (s : Settings) {a : Arrow} (ha : a ∈ f.arrows s) :
    ∃ row < s.grid.rows.toNat, ∃ col < s.grid.cols.toNat, a.origin = s.grid.node s.bounds row col := by
  rw [arrows, sampleArrows, List.idRun_ofFnM, List.mem_ofFn] at ha
  obtain ⟨k, rfl⟩ := ha
  exact ⟨_, s.grid.row_lt k.isLt, _, s.grid.col_lt k.isLt, rfl⟩

/-- The view of accepted settings can be used exactly if both sides are moderate. Where it can, all arrows start in the
rectangle. -/
theorem viewable_iff_moderate {s : Settings} (h : s.check = .ok ()) :
    (s.Viewable ↔ Moderate s.bounds.minX s.bounds.maxX ∧ Moderate s.bounds.minY s.bounds.maxY) ∧
    (s.Viewable → ∀ f : FormulaPair, ∀ a ∈ f.arrows s,
      Within s.bounds.minX s.bounds.maxX a.origin.x ∧ Within s.bounds.minY s.bounds.maxY a.origin.y) := by
  have husable := Settings.check_eq_ok_iff_usable.mp h
  have hcorners := husable.corners
  simp only [List.forall_mem_cons] at hcorners
  obtain ⟨hx₁, hy₁, hx₂, hy₂, -⟩ := hcorners
  have hx := (lt_iff_toReal hx₁ hx₂).mp husable.x_lt
  have hy := (lt_iff_toReal hy₁ hy₂).mp husable.y_lt
  rw [moderate_iff hx, moderate_iff hy]
  constructor
  · constructor
    · intro hv
      have hscale := hv.scale
      have hoffset := hv.offset
      simp only [Point.toList, List.forall_mem_cons] at hscale hoffset
      exact ⟨⟨(scale_usable_iff hx₁ hx₂ hx).mp hscale.1, (isFinite_offset_iff hx₁ hx₂).mp hoffset.1⟩,
        (scale_usable_iff hy₁ hy₂ hy).mp hscale.2.1, (isFinite_offset_iff hy₁ hy₂).mp hoffset.2.1⟩
    · rintro ⟨⟨hwidth, hcentre⟩, hheight, hmiddle⟩
      have hnodes := husable.nodes
      refine ⟨?_, ?_, fun row hrow col hcol => ?_⟩
      · simp only [Point.toList, List.forall_mem_cons]
        exact ⟨(scale_usable_iff hx₁ hx₂ hx).mpr hwidth, (scale_usable_iff hy₁ hy₂ hy).mpr hheight,
          List.forall_mem_nil _⟩
      · simp only [Point.toList, List.forall_mem_cons]
        exact ⟨(isFinite_offset_iff hx₁ hx₂).mpr hcentre, (isFinite_offset_iff hy₁ hy₂).mpr hmiddle,
          List.forall_mem_nil _⟩
      · have hcols : s.grid.cols.toNat ≤ Grid.maxNodes := (Nat.le_mul_of_pos_left _ husable.rows).trans hnodes
        have hrows : s.grid.rows.toNat ≤ Grid.maxNodes := (Nat.le_mul_of_pos_right _ husable.cols).trans hnodes
        exact ⟨within_node hx₁ hx₂ hx hcol hcols hwidth.1 hwidth.2, within_node hy₁ hy₂ hy hrow hrows hheight.1 hheight.2⟩
  · intro hv f a ha
    obtain ⟨row, hrow, col, hcol, horigin⟩ := f.exists_node_of_mem_arrows s ha
    rw [horigin]
    exact hv.nodes row hrow col hcol

/-- Ends that are finite and in order, but farther apart than any double. -/
def Settings.tooWide : Settings := { Settings.standard with bounds := ⟨-1e308, -1, 1e308, 1⟩ }

/-- The settings are accepted, but the view cannot be used: the horizontal scale is 0, and already the first node is not
finite. -/
theorem tooWide_accepted_not_viewable :
    Settings.tooWide.check = .ok () ∧ Settings.tooWide.bounds.scale.x = 0 ∧
    (Settings.tooWide.grid.node Settings.tooWide.bounds 0 0).x.isFinite = false ∧ ¬Settings.tooWide.Viewable := by
  have hscale : Settings.tooWide.bounds.scale.x = 0 := by decide +kernel
  refine ⟨by decide +kernel, hscale, by decide +kernel, fun hv => ?_⟩
  have hpos := (hv.scale Settings.tooWide.bounds.scale.x (by simp [Point.toList])).2
  rw [hscale] at hpos
  exact absurd hpos (by decide +kernel)

theorem toReal_five : (5 : Float).isFinite = true ∧ toReal 5 = 5 := toReal_natCast (n := 5) (by norm_num)

/-- The standard square can be used, and of the rectangle that is too wide one side is not moderate. -/
theorem standard_viewable :
    Settings.standard.check = .ok () ∧ Moderate (-5) 5 ∧ Settings.standard.Viewable ∧
    (∀ f : FormulaPair, ∀ a ∈ f.arrows Settings.standard, Within (-5) 5 a.origin.x) ∧
    Settings.tooWide.check = .ok () ∧ ¬(Moderate (-1e308) 1e308 ∧ Moderate (-1) 1) := by
  have hstandard : Settings.standard.check = .ok () := by decide +kernel
  have htooWide : Settings.tooWide.check = .ok () := by decide +kernel
  have hside : Moderate (-5) 5 := by
    have hinverse : (2 : ℝ) ^ (-1023 : ℤ) ≤ 2 ^ (0 : ℤ) := zpow_le_zpow_right₀ one_le_two (by norm_num)
    constructor <;> rw [toReal_neg, toReal_five.2]
    · exact hinverse.trans_lt (by norm_num)
    · norm_num
      exact lt_overflow (by norm_num)
  have hzero : ¬(0 : Float) < Settings.tooWide.bounds.scale.x := by decide +kernel
  obtain ⟨hviewable, horigins⟩ := viewable_iff_moderate hstandard
  have hview := hviewable.mpr ⟨hside, hside⟩
  refine ⟨hstandard, hside, hview, fun f a ha => (horigins hview f a ha).1, htooWide, fun hmoderate => ?_⟩
  have hbroken := (viewable_iff_moderate htooWide).1.mpr hmoderate
  exact hzero (hbroken.scale _ (by simp [Point.toList])).2

end PhasePortrait
