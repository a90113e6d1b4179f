import Mathlib.Analysis.Normed.Field.Lemmas
import Mathlib.Analysis.Normed.Group.AddTorsor
import Mathlib.LinearAlgebra.AffineSpace.Ordered
import Mathlib.Tactic.Linarith
import PhasePortrait.Plane.View

/-! # Coordinates of the view

Over the rational numbers each coordinate of a world point divides its side of the rectangle in the ratio in
which the clip or window coordinate divides the square or the window. So what is known of the maps from one
segment onto another is true of the view: they are inverted exactly, keep the order and what lies inside.
-/
namespace PhasePortrait.Bounds
open AffineMap

/-- The rectangle has an extent in both directions. -/
structure Proper (b : Bounds ℚ) : Prop where
  x_lt : b.minX < b.maxX
  y_lt : b.minY < b.maxY

/-- The point lies in the rectangle or on its border. -/
structure Contains (b : Bounds ℚ) (p : Point ℚ) : Prop where
  x_ge : b.minX ≤ p.x
  x_le : p.x ≤ b.maxX
  y_ge : b.minY ≤ p.y
  y_le : p.y ≤ b.maxY

def clipSquare : Bounds ℚ := ⟨-1, -1, 1, 1⟩

def window (width height : ℚ) : Bounds ℚ := ⟨0, 0, width, height⟩

/-- The point of the clip square at which a world point is shown. -/
def clipOfWorld (b : Bounds ℚ) (w : Point ℚ) : Point ℚ :=
  ⟨b.scale.x * (w.x + b.offset.x), b.scale.y * (w.y + b.offset.y)⟩

theorem contains_iff {b : Bounds ℚ} {p : Point ℚ} :
    b.Contains p ↔ (b.minX ≤ p.x ∧ p.x ≤ b.maxX) ∧ b.minY ≤ p.y ∧ p.y ≤ b.maxY :=
  ⟨fun h => ⟨⟨h.x_ge, h.x_le⟩, h.y_ge, h.y_le⟩, fun h => ⟨h.1.1, h.1.2, h.2.1, h.2.2⟩⟩

/-! ## One coordinate -/

/-- The clip coordinate `c` divides the side from `lo` to `hi` as it divides the side of the square. -/
theorem worldOfClip_coordinate (lo hi c : ℚ) :
    c / (2 / (hi - lo)) - -(0.5 * (lo + hi)) = lineMap lo hi ((c + 1) / 2) := by
  rw [lineMap_apply_ring', div_div_eq_mul_div]
  ring

/-- Scaling takes back what shrinking the clip coordinate to the side from `lo` to `hi` has done. -/
theorem scale_worldOfClip {lo hi : ℚ} (h : lo < hi) (c : ℚ) :
    2 / (hi - lo) * (c / (2 / (hi - lo)) - -(0.5 * (lo + hi)) + -(0.5 * (lo + hi))) = c := by
  have hside : hi - lo ≠ 0 := (sub_pos.mpr h).ne'
  rw [sub_add_cancel, mul_div_cancel₀ c (div_ne_zero two_ne_zero hside)]

theorem shrink_clipOfWorld {lo hi : ℚ} (h : lo < hi) (w : ℚ) :
    2 / (hi - lo) * (w + -(0.5 * (lo + hi))) / (2 / (hi - lo)) - -(0.5 * (lo + hi)) = w := by
  have hside : hi - lo ≠ 0 := (sub_pos.mpr h).ne'
  rw [mul_div_cancel_left₀ _ (div_ne_zero two_ne_zero hside), add_sub_cancel_right]

theorem between_iff {lo hi t : ℚ} (h : lo < hi) : lo ≤ lineMap lo hi t ∧ lineMap lo hi t ≤ hi ↔ 0 ≤ t ∧ t ≤ 1 := by
  rw [left_le_lineMap_iff_nonneg h, lineMap_le_right_iff_le_one h]

section
variable (b : Bounds ℚ) (c : Point ℚ) (px py width height : ℚ)

theorem x_worldOfClip : (b.worldOfClip c).x = lineMap b.minX b.maxX ((c.x + 1) / 2) := worldOfClip_coordinate ..

theorem y_worldOfClip : (b.worldOfClip c).y = lineMap b.minY b.maxY ((c.y + 1) / 2) := worldOfClip_coordinate ..

theorem x_worldOfPixel : (b.worldOfPixel px py width height).x = lineMap b.minX b.maxX (px / width) := by
  have hclip : (2 * px / width - 1 + 1) / 2 = px / width := by ring
  rw [worldOfPixel, x_worldOfClip, hclip]

/-- The window coordinate counts from the top. -/
theorem y_worldOfPixel : (b.worldOfPixel px py width height).y = lineMap b.minY b.maxY (1 - py / height) := by
  have hclip : (1 - 2 * py / height + 1) / 2 = 1 - py / height := by ring
  rw [worldOfPixel, y_worldOfClip, hclip]

end

/-! ## World and clip coordinates -/

section
variable {b : Bounds ℚ} (h : b.Proper)
include h

theorem worldOfClip_clipOfWorld (w : Point ℚ) : b.worldOfClip (b.clipOfWorld w) = w :=
  Point.ext (shrink_clipOfWorld h.x_lt w.x) (shrink_clipOfWorld h.y_lt w.y)

theorem clipOfWorld_worldOfClip (c : Point ℚ) : b.clipOfWorld (b.worldOfClip c) = c :=
  Point.ext (scale_worldOfClip h.x_lt c.x) (scale_worldOfClip h.y_lt c.y)

theorem contains_worldOfClip_iff (c : Point ℚ) : b.Contains (b.worldOfClip c) ↔ clipSquare.Contains c := by
  have hratio (t : ℚ) : 0 ≤ (t + 1) / 2 ∧ (t + 1) / 2 ≤ 1 ↔ -1 ≤ t ∧ t ≤ 1 := by
    refine and_congr ?_ ?_ <;> constructor <;> intro ht <;> linarith
  rw [contains_iff, contains_iff, x_worldOfClip, y_worldOfClip, between_iff h.x_lt, between_iff h.y_lt, hratio, hratio]
  rfl

/-! ## Window coordinates -/

variable {width height : ℚ}

theorem x_worldOfPixel_lt_iff (hw : 0 < width) {px px' : ℚ} (py py' : ℚ) :
    (b.worldOfPixel px py width height).x < (b.worldOfPixel px' py' width height).x ↔ px < px' := by
  rw [x_worldOfPixel, x_worldOfPixel, lineMap_lt_lineMap_iff_of_lt' h.x_lt, div_lt_div_iff_of_pos_right hw]

theorem y_worldOfPixel_lt_iff (hh : 0 < height) {py py' : ℚ} (px px' : ℚ) :
    (b.worldOfPixel px' py' width height).y < (b.worldOfPixel px py width height).y ↔ py < py' := by
  rw [y_worldOfPixel, y_worldOfPixel, lineMap_lt_lineMap_iff_of_lt' h.y_lt, sub_lt_sub_iff_left,
    div_lt_div_iff_of_pos_right hh]

variable (hw : 0 < width) (hh : 0 < height)
include hw hh

theorem worldOfPixel_injective {px py px' py' : ℚ}
    (he : b.worldOfPixel px py width height = b.worldOfPixel px' py' width height) : px = px' ∧ py = py' := by
  have hx := congrArg Point.x he
  have hy := congrArg Point.y he
  rw [x_worldOfPixel, x_worldOfPixel] at hx
  rw [y_worldOfPixel, y_worldOfPixel] at hy
  constructor
  · exact (div_left_inj' hw.ne').mp (lineMap_injective ℚ h.x_lt.ne hx)
  · exact (div_left_inj' hh.ne').mp (sub_right_injective (lineMap_injective ℚ h.y_lt.ne hy))

theorem contains_worldOfPixel_iff (px py : ℚ) :
    b.Contains (b.worldOfPixel px py width height) ↔ (window width height).Contains ⟨px, py⟩ := by
  have hratio {p size : ℚ} (hs : 0 < size) : 0 ≤ p / size ∧ p / size ≤ 1 ↔ 0 ≤ p ∧ p ≤ size := by
    rw [le_div_iff₀ hs, zero_mul, div_le_one hs]
  have hflip (t : ℚ) : 0 ≤ 1 - t ∧ 1 - t ≤ 1 ↔ 0 ≤ t ∧ t ≤ 1 := by
    rw [sub_nonneg, sub_le_self_iff, and_comm]
  rw [contains_iff, contains_iff, x_worldOfPixel, y_worldOfPixel, between_iff h.x_lt, between_iff h.y_lt, hflip,
    hratio hw, hratio hh]
  rfl

end

theorem worldOfPixel_topLeft (b : Bounds ℚ) (width height : ℚ) :
    b.worldOfPixel 0 0 width height = ⟨b.minX, b.maxY⟩ := by
  ext
  · rw [x_worldOfPixel, zero_div, lineMap_apply_zero]
  · rw [y_worldOfPixel, zero_div, sub_zero, lineMap_apply_one]

theorem worldOfPixel_bottomRight (b : Bounds ℚ) {width height : ℚ} (hw : width ≠ 0) (hh : height ≠ 0) :
    b.worldOfPixel width height width height = ⟨b.maxX, b.minY⟩ := by
  ext
  · rw [x_worldOfPixel, div_self hw, lineMap_apply_one]
  · rw [y_worldOfPixel, div_self hh, sub_self, lineMap_apply_zero]

/-- Mapping a world point into the clip square and back gives the point again, and so does mapping a clip point
to the world and back; a point of the square corresponds to a point of the rectangle and conversely. In a window
that is not empty the pixels of the window are those of the rectangle, no two pixels show the same point, the
world goes to the right with the pixels and upwards against them, and the two corners of the window are corners
of the rectangle. -/
theorem view_inverted {b : Bounds ℚ} (h : b.Proper) :
    (∀ w, b.worldOfClip (b.clipOfWorld w) = w) ∧
    (∀ c, b.clipOfWorld (b.worldOfClip c) = c) ∧
    (∀ c, clipSquare.Contains c ↔ b.Contains (b.worldOfClip c)) ∧
    ∀ width height, 0 < width → 0 < height →
      (∀ px py, (window width height).Contains ⟨px, py⟩ ↔ b.Contains (b.worldOfPixel px py width height)) ∧
      (∀ px py px' py', b.worldOfPixel px py width height = b.worldOfPixel px' py' width height →
        px = px' ∧ py = py') ∧
      (∀ px py px' py', px < px' →
        (b.worldOfPixel px py width height).x < (b.worldOfPixel px' py' width height).x) ∧
      (∀ px py px' py', py < py' →
        (b.worldOfPixel px' py' width height).y < (b.worldOfPixel px py width height).y) ∧
      b.worldOfPixel 0 0 width height = ⟨b.minX, b.maxY⟩ ∧
      b.worldOfPixel width height width height = ⟨b.maxX, b.minY⟩ := by
  refine ⟨worldOfClip_clipOfWorld h, clipOfWorld_worldOfClip h, fun c => (contains_worldOfClip_iff h c).symm, ?_⟩
  intro width height hw hh
  refine ⟨fun px py => (contains_worldOfPixel_iff h hw hh px py).symm,
    fun _ _ _ _ he => worldOfPixel_injective h hw hh he, ?_, ?_, worldOfPixel_topLeft b width height,
    worldOfPixel_bottomRight b hw.ne' hh.ne'⟩
  · intro px py px' py' hlt
    exact (x_worldOfPixel_lt_iff h hw py py').mpr hlt
  · intro px py px' py' hlt
    exact (y_worldOfPixel_lt_iff h hh px px').mpr hlt

/-- A rectangle that is neither square nor around the origin, in a window of another shape. -/
theorem view_inverted_oblong :
    let b : Bounds ℚ := ⟨-2, -1, 6, 3⟩
    b.Proper ∧
    b.clipOfWorld ⟨4, 0⟩ = ⟨1 / 2, -1 / 2⟩ ∧ b.worldOfClip ⟨1 / 2, -1 / 2⟩ = ⟨4, 0⟩ ∧
    b.worldOfPixel 600 450 800 600 = ⟨4, 0⟩ ∧ (window 800 600).Contains ⟨600, 450⟩ ∧ b.Contains ⟨4, 0⟩ ∧
    (b.worldOfPixel 600 450 800 600).x < (b.worldOfPixel 700 0 800 600).x ∧
    (b.worldOfPixel 600 450 800 600).y < (b.worldOfPixel 700 0 800 600).y := by
  intro b
  have hb : b.Proper := ⟨by decide +kernel, by decide +kernel⟩
  have hclip : b.clipOfWorld ⟨4, 0⟩ = ⟨1 / 2, -1 / 2⟩ := by decide +kernel
  have hpixel : b.worldOfPixel 600 450 800 600 = ⟨4, 0⟩ := by decide +kernel
  have hwindow : (window 800 600).Contains ⟨600, 450⟩ := by constructor <;> decide +kernel
  obtain ⟨hworld, -, -, hpixels⟩ := view_inverted hb
  obtain ⟨hinside, -, hright, hup, -, -⟩ := hpixels 800 600 (by decide +kernel) (by decide +kernel)
  refine ⟨hb, hclip, ?_, hpixel, hwindow, ?_, hright 600 450 700 0 (by decide +kernel),
    hup 700 0 600 450 (by decide +kernel)⟩
  · rw [← hclip]
    exact hworld ⟨4, 0⟩
  · rw [← hpixel]
    exact (hinside 600 450).mp hwindow

end PhasePortrait.Bounds
