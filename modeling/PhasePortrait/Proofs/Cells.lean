import PhasePortrait.Portrait.Basic
import PhasePortrait.Proofs.Coordinates

/-! # Cells and pixels

A grid cuts the rectangle into cells of equal size, and a window with one pixel for each cell shows the rectangle as
cut by the grid. Over the rational numbers the node of a cell is its centre, which the view shows at the centre of the
pixel; rows are counted from the bottom and pixels from the top.
-/
namespace PhasePortrait

/-! ## Equal parts of a side -/

section
variable {n : ℕ}

/-- A number up to `n` lies in one of `n` parts of length one; the last part has its right end. -/
theorem exists_part_iff (hn : 1 ≤ n) {t : ℚ} : (0 ≤ t ∧ t ≤ n) ↔ ∃ j < n, (j : ℚ) ≤ t ∧ t ≤ j + 1 := by
  constructor
  · rintro ⟨h₀, h₁⟩
    rcases lt_or_eq_of_le h₁ with hlt | rfl
    · exact ⟨⌊t⌋₊, (Nat.floor_lt h₀).mpr hlt, Nat.floor_le h₀, (Nat.lt_floor_add_one t).le⟩
    · refine ⟨n - 1, by omega, ?_⟩
      rw [Nat.cast_pred hn, sub_add_cancel]
      exact ⟨by linarith, le_rfl⟩
  · rintro ⟨j, hj, h₀, h₁⟩
    have hnext : (j : ℚ) + 1 ≤ n := by exact_mod_cast hj
    exact ⟨(Nat.cast_nonneg j).trans h₀, h₁.trans hnext⟩

/-- The middle of one part lies in no other part. -/
theorem middle_iff {j k : ℕ} : ((j : ℚ) ≤ k + 1 / 2 ∧ (k : ℚ) + 1 / 2 ≤ j + 1) ↔ k = j := by
  constructor
  · rintro ⟨h₀, h₁⟩
    have hle : (j : ℚ) < (k + 1 : ℕ) := by
      push_cast
      linarith
    have hge : (k : ℚ) < (j + 1 : ℕ) := by
      push_cast
      linarith
    rw [Nat.cast_lt] at hle hge
    omega
  · rintro rfl
    constructor <;> linarith

/-- The mark after `t` of the `n` equal parts of the side from `lo` to `hi`. -/
def mark (lo hi : ℚ) (n : ℕ) (t : ℚ) : ℚ := lo + t * ((hi - lo) / n)

theorem mark_eq_lineMap (lo hi : ℚ) (n : ℕ) (t : ℚ) : mark lo hi n t = AffineMap.lineMap lo hi (t / n) := by
  rw [mark, AffineMap.lineMap_apply_ring']
  ring

theorem mark_zero (lo hi : ℚ) (n : ℕ) : mark lo hi n 0 = lo := by rw [mark, zero_mul, add_zero]

theorem mark_middle (lo hi : ℚ) (n : ℕ) (t : ℚ) :
    0.5 * (mark lo hi n t + mark lo hi n (t + 1)) = mark lo hi n (t + 1 / 2) := by
  unfold mark
  ring

variable {lo hi : ℚ} (hn : 1 ≤ n) (h : lo < hi)
include hn

theorem mark_length : mark lo hi n n = hi := by
  have hne : (n : ℚ) ≠ 0 := by exact_mod_cast Nat.ne_of_gt hn
  rw [mark_eq_lineMap, div_self hne, AffineMap.lineMap_apply_one]

include h

theorem mark_strictMono : StrictMono (mark lo hi n) := by
  intro s t hst
  have hpos : (0 : ℚ) < n := by exact_mod_cast hn
  have hpart : 0 < (hi - lo) / n := div_pos (sub_pos.mpr h) hpos
  exact (add_lt_add_iff_left lo).mpr (mul_lt_mul_of_pos_right hst hpart)

theorem lt_mark_iff {t : ℚ} : lo < mark lo hi n t ∧ mark lo hi n t < hi ↔ 0 < t ∧ t < n := by
  have hzero := (mark_strictMono hn h).lt_iff_lt (a := 0) (b := t)
  have hlength := (mark_strictMono hn h).lt_iff_lt (a := t) (b := n)
  rw [mark_zero] at hzero
  rw [mark_length hn] at hlength
  exact and_congr hzero hlength

theorem between_mark_iff {t : ℚ} : lo ≤ mark lo hi n t ∧ mark lo hi n t ≤ hi ↔ 0 ≤ t ∧ t ≤ n := by
  have hzero := (mark_strictMono hn h).le_iff_le (a := 0) (b := t)
  have hlength := (mark_strictMono hn h).le_iff_le (a := t) (b := n)
  rw [mark_zero] at hzero
  rw [mark_length hn] at hlength
  exact and_congr hzero hlength

theorem exists_mark (x : ℚ) : ∃ t, mark lo hi n t = x := by
  have hne : (n : ℚ) ≠ 0 := by exact_mod_cast Nat.ne_of_gt hn
  have hpart : (hi - lo) / n ≠ 0 := div_ne_zero (sub_pos.mpr h).ne' hne
  exact ⟨(x - lo) / ((hi - lo) / n), by rw [mark, div_mul_cancel₀ _ hpart, add_sub_cancel]⟩

/-- The parts cover the side. -/
theorem between_iff_exists_part (x : ℚ) :
    lo ≤ x ∧ x ≤ hi ↔ ∃ j < n, mark lo hi n j ≤ x ∧ x ≤ mark lo hi n (j + 1) := by
  obtain ⟨t, rfl⟩ := exists_mark hn h x
  simp only [between_mark_iff hn h, (mark_strictMono hn h).le_iff_le]
  exact exists_part_iff hn

/-- The middle of one part lies in no other part. -/
theorem between_marks_middle_iff {j k : ℕ} :
    mark lo hi n j ≤ mark lo hi n (k + 1 / 2) ∧ mark lo hi n (k + 1 / 2) ≤ mark lo hi n (j + 1) ↔ k = j := by
  rw [(mark_strictMono hn h).le_iff_le, (mark_strictMono hn h).le_iff_le, middle_iff]

end

/-! ## Cells -/

namespace Bounds

/-- The point lies in the rectangle and not on its border. -/
structure Surrounds (b : Bounds ℚ) (p : Point ℚ) : Prop where
  x_gt : b.minX < p.x
  x_lt : p.x < b.maxX
  y_gt : b.minY < p.y
  y_lt : p.y < b.maxY

variable {α : Type} [Add α] [Sub α] [Mul α] [Div α] [Neg α] [OfScientific α] [OfNat α 0] [OfNat α 1] [OfNat α 2]
  [LT α] [DecidableLT α]

/-- The world point of a click in a window that is not empty. -/
def clicked? (b : Bounds α) (px py width height : α) : Option (Point α) :=
  if 0 < width ∧ 0 < height then some (b.worldOfPixel px py width height) else none

end Bounds

namespace Grid

/-- The cell in the given row and column where the rectangle is cut into equal ones. -/
def cell (g : Grid) (b : Bounds ℚ) (row col : ℕ) : Bounds ℚ where
  minX := mark b.minX b.maxX g.cols.toNat col
  minY := mark b.minY b.maxY g.rows.toNat row
  maxX := mark b.minX b.maxX g.cols.toNat (col + 1)
  maxY := mark b.minY b.maxY g.rows.toNat (row + 1)

section
variable (g : Grid) (b : Bounds ℚ) (row col : ℕ)

theorem node_eq_mark : g.node b row col =
    ⟨mark b.minX b.maxX g.cols.toNat (col + 1 / 2), mark b.minY b.maxY g.rows.toNat (row + 1 / 2)⟩ := by
  have hhalf : (0.5 : ℚ) = 1 / 2 := by norm_num
  rw [node, hhalf]
  rfl

theorem node_eq_center : g.node b row col = (g.cell b row col).center := by
  rw [node_eq_mark]
  exact Point.ext (mark_middle ..).symm (mark_middle ..).symm

theorem width_cell : (g.cell b row col).width = b.width / g.cols.toNat := by
  change mark _ _ _ _ - mark _ _ _ _ = _
  unfold mark Bounds.width
  ring

theorem height_cell : (g.cell b row col).height = b.height / g.rows.toNat := by
  change mark _ _ _ _ - mark _ _ _ _ = _
  unfold mark Bounds.height
  ring

end

section
variable {g : Grid} {b : Bounds ℚ} (hb : b.Proper) (hrows : 1 ≤ g.rows.toNat) (hcols : 1 ≤ g.cols.toNat)

include hrows in
/-- The pixel of a node, in a window of one pixel for each cell. -/
theorem node_eq_worldOfPixel (row col : ℕ) : g.node b row col =
    b.worldOfPixel (col + 1 / 2) (g.rows.toNat - row - 1 / 2) g.cols.toNat g.rows.toNat := by
  have hne : (g.rows.toNat : ℚ) ≠ 0 := by exact_mod_cast Nat.ne_of_gt hrows
  have hflip : 1 - ((g.rows.toNat : ℚ) - row - 1 / 2) / g.rows.toNat = (row + 1 / 2) / g.rows.toNat := by
    rw [eq_div_iff hne, sub_mul, div_mul_cancel₀ _ hne]
    ring
  rw [node_eq_mark]
  ext
  · rw [Bounds.x_worldOfPixel]
    exact mark_eq_lineMap ..
  · rw [Bounds.y_worldOfPixel, hflip]
    exact mark_eq_lineMap ..

include hb hrows hcols

theorem surrounds_node {row col : ℕ} (hrow : row < g.rows.toNat) (hcol : col < g.cols.toNat) :
    b.Surrounds (g.node b row col) := by
  have hinside {n j : ℕ} (hj : j < n) : (0 : ℚ) < j + 1 / 2 ∧ (j : ℚ) + 1 / 2 < n := by
    have hnext : (j : ℚ) + 1 ≤ n := by exact_mod_cast hj
    exact ⟨by positivity, by linarith⟩
  rw [node_eq_mark]
  obtain ⟨hx₁, hx₂⟩ := (lt_mark_iff hcols hb.x_lt).mpr (hinside hcol)
  obtain ⟨hy₁, hy₂⟩ := (lt_mark_iff hrows hb.y_lt).mpr (hinside hrow)
  exact ⟨hx₁, hx₂, hy₁, hy₂⟩

theorem contains_iff_exists_cell (p : Point ℚ) :
    b.Contains p ↔ ∃ row < g.rows.toNat, ∃ col < g.cols.toNat, (g.cell b row col).Contains p := by
  rw [Bounds.contains_iff, between_iff_exists_part hcols hb.x_lt, between_iff_exists_part hrows hb.y_lt]
  constructor
  · rintro ⟨⟨col, hcol, hx⟩, row, hrow, hy⟩
    exact ⟨row, hrow, col, hcol, Bounds.contains_iff.mpr ⟨hx, hy⟩⟩
  · rintro ⟨row, hrow, col, hcol, hp⟩
    obtain ⟨hx, hy⟩ := Bounds.contains_iff.mp hp
    exact ⟨⟨col, hcol, hx⟩, row, hrow, hy⟩

/-- A cell contains its own node and no other. -/
theorem cell_contains_node_iff {row col row' col' : ℕ} :
    (g.cell b row col).Contains (g.node b row' col') ↔ row' = row ∧ col' = col := by
  rw [Bounds.contains_iff, node_eq_mark, and_comm]
  exact and_congr (between_marks_middle_iff hrows hb.y_lt) (between_marks_middle_iff hcols hb.x_lt)

theorem node_injective {row col row' col' : ℕ} (he : g.node b row col = g.node b row' col') :
    row = row' ∧ col = col' := by
  have hown : (g.cell b row' col').Contains (g.node b row' col') :=
    (cell_contains_node_iff hb hrows hcols).mpr ⟨rfl, rfl⟩
  rw [← he] at hown
  exact (cell_contains_node_iff hb hrows hcols).mp hown

end

end Grid

theorem Portrait.addAtPixel_eq (p : Portrait) (px py width height : Float) :
    p.addAtPixel px py width height = match p.settings.bounds.clicked? px py width height with
      | some initial => ⟨(p.add initial).result.mapError .fieldFailed, (p.add initial).portrait, (p.add initial).events⟩
      | none => ⟨.error (.emptyWindow width height), p, []⟩ := by
  unfold addAtPixel Bounds.clicked?
  split <;> rfl

/-- In a window of one pixel for each cell, every node is the world point at the centre of its pixel, and a click there
is one at the node. It is the centre of its cell and lies inside the rectangle. The cells are of one size and cover the
rectangle, each contains one node, and no two nodes are equal. A trajectory is traced from the point that is clicked. -/
theorem node_centered {b : Bounds ℚ} (hb : b.Proper) {g : Grid} (hrows : 1 ≤ g.rows.toNat) (hcols : 1 ≤ g.cols.toNat) :
    let rows := g.rows.toNat
    let cols := g.cols.toNat
    (∀ row < rows, ∀ col < cols,
      g.node b row col = b.worldOfPixel (col + 1 / 2) (rows - row - 1 / 2) cols rows ∧
      b.clicked? (col + 1 / 2) (rows - row - 1 / 2) cols rows = some (g.node b row col) ∧
      g.node b row col = (g.cell b row col).center ∧
      b.Surrounds (g.node b row col) ∧
      (g.cell b row col).width = b.width / cols ∧ (g.cell b row col).height = b.height / rows) ∧
    (∀ p, b.Contains p ↔ ∃ row < rows, ∃ col < cols, (g.cell b row col).Contains p) ∧
    (∀ row < rows, ∀ col < cols, ∀ row' < rows, ∀ col' < cols,
      ((g.cell b row col).Contains (g.node b row' col') ↔ row' = row ∧ col' = col) ∧
      (g.node b row col = g.node b row' col' → row = row' ∧ col = col')) ∧
    ∀ (p : Portrait) (px py width height : Float),
      p.addAtPixel px py width height = match p.settings.bounds.clicked? px py width height with
        | some initial => ⟨(p.add initial).result.mapError .fieldFailed, (p.add initial).portrait, (p.add initial).events⟩
        | none => ⟨.error (.emptyWindow width height), p, []⟩ := by
  intro rows cols
  refine ⟨fun row hrow col hcol => ?_, Grid.contains_iff_exists_cell hb hrows hcols, ?_, Portrait.addAtPixel_eq⟩
  · have hpixel := Grid.node_eq_worldOfPixel (b := b) hrows row col
    have hwindow : (0 : ℚ) < cols ∧ (0 : ℚ) < rows := ⟨by exact_mod_cast hcols, by exact_mod_cast hrows⟩
    refine ⟨hpixel, ?_, g.node_eq_center b row col, Grid.surrounds_node hb hrows hcols hrow hcol, g.width_cell b row col,
      g.height_cell b row col⟩
    rw [hpixel]
    exact if_pos hwindow
  · intro row _ col _ row' _ col' _
    exact ⟨Grid.cell_contains_node_iff hb hrows hcols, Grid.node_injective hb hrows hcols⟩

/-- Two rows of four cells: the pixel of the upper row, third from the left. -/
theorem node_centered_oblong :
    let b : Bounds ℚ := ⟨-2, -1, 6, 3⟩
    let g : Grid := ⟨2, 4⟩
    b.Proper ∧ 1 ≤ g.rows.toNat ∧ 1 ≤ g.cols.toNat ∧
    g.node b 1 2 = ⟨3, 2⟩ ∧ b.worldOfPixel (5 / 2) (1 / 2) 4 2 = ⟨3, 2⟩ ∧
    b.clicked? (5 / 2) (1 / 2) 4 2 = some ⟨3, 2⟩ ∧ b.Surrounds ⟨3, 2⟩ ∧
    g.cell b 1 2 = ⟨2, 1, 4, 3⟩ ∧ ¬(g.cell b 1 2).Contains (g.node b 0 2) := by
  intro b g
  have hb : b.Proper := ⟨by decide +kernel, by decide +kernel⟩
  have hnode : g.node b 1 2 = ⟨3, 2⟩ := by decide +kernel
  obtain ⟨hnodes, -, hcells, -⟩ := node_centered hb (g := g) (by decide) (by decide)
  obtain ⟨-, -, -, hinside, -, -⟩ := hnodes 1 (by decide) 2 (by decide)
  rw [hnode] at hinside
  refine ⟨hb, by decide, by decide, hnode, by decide +kernel, by decide +kernel, hinside, by decide +kernel, ?_⟩
  intro hcontains
  have hsame := (hcells 1 (by decide) 2 (by decide) 0 (by decide) 2 (by decide)).1.mp hcontains
  exact absurd hsame.1 (by decide)

end PhasePortrait
