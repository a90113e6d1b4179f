import PhasePortrait.Plane.Bounds

/-! # World, clip and window coordinates

The rectangle on display is mapped onto the square from -1 to 1 in both coordinates by
`clip = scale · (world + offset)`. A window has its origin at the top left and `y` downwards.
-/
namespace PhasePortrait.Bounds
variable {α : Type} [Add α] [Sub α] [Mul α] [Div α] [Neg α] [OfScientific α] [OfNat α 1] [OfNat α 2]

def scale (b : Bounds α) : Point α := ⟨2 / b.width, 2 / b.height⟩

def offset (b : Bounds α) : Point α := -b.center

/-- The world point shown at a point of the clip square. -/
def worldOfClip (b : Bounds α) (c : Point α) : Point α :=
  ⟨c.x / b.scale.x, c.y / b.scale.y⟩ - b.offset

/-- The world point shown at a pixel of a window of the given size. -/
def worldOfPixel (b : Bounds α) (px py width height : α) : Point α :=
  b.worldOfClip ⟨2 * px / width - 1, 1 - 2 * py / height⟩

end PhasePortrait.Bounds

namespace PhasePortrait

structure Segment where
  first : Point Float
  last : Point Float
  deriving DecidableEq, Repr

/-- The parts of the coordinate axes inside the rectangle, the horizontal axis first. An axis that
misses the rectangle is left out. -/
def Bounds.axes (b : Bounds Float) : List Segment :=
  (if b.minY ≤ 0 ∧ 0 ≤ b.maxY then [⟨⟨b.minX, 0⟩, ⟨b.maxX, 0⟩⟩] else []) ++
  (if b.minX ≤ 0 ∧ 0 ≤ b.maxX then [⟨⟨0, b.minY⟩, ⟨0, b.maxY⟩⟩] else [])

end PhasePortrait
