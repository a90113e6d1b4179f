import PhasePortrait.Portrait.Basic

/-! # Vertex buffers

Flat lists of single-precision numbers for drawing.
-/
namespace PhasePortrait

def Point.vertex (p : Point Float) : List Float32 := (p.map toSingle).toList

/-- Origin and direction of every arrow, four numbers each. -/
def arrowVertices (arrows : List Arrow) : List Float32 :=
  arrows.flatMap fun a => a.origin.vertex ++ a.direction.vertex

/-- Every state, two numbers each. -/
def stateVertices (states : List (Point Float)) : List Float32 := states.flatMap Point.vertex

namespace Portrait

def arrowBuffer (p : Portrait) : Except FormulaError (List Float32) := p.arrows.map arrowVertices

def trajectoryBuffer (p : Portrait) (index : Nat) : Option (List Float32) :=
  (p.trajectory? index).map fun t => stateVertices t.states

def axesBuffer (p : Portrait) : List Float32 :=
  p.settings.bounds.axes.flatMap fun s => s.first.vertex ++ s.last.vertex

def scaleBuffer (p : Portrait) : List Float32 := p.settings.bounds.scale.vertex

def offsetBuffer (p : Portrait) : List Float32 := p.settings.bounds.offset.vertex

end Portrait
end PhasePortrait
