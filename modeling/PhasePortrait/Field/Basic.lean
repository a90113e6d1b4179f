import PhasePortrait.Formula.Error
import PhasePortrait.Plane.Point

/-! # Vector fields

A field is asked for its vector at one point at a time. It may fail, and it may keep a state from
one answer to the next.
-/
namespace PhasePortrait

/-- A computation that asks a field: it can fail and keeps a state of type `σ`, also on failure. -/
abbrev Asking (σ : Type) := ExceptT FormulaError (StateM σ)

abbrev VectorField (σ : Type) := Point Float → Asking σ (Point Float)

namespace VectorField

/-- A field with a record of the points at which it was asked, in order. -/
def observe {σ : Type} (field : VectorField σ) : VectorField (Array (Point Float) × σ) := fun p =>
  ExceptT.mk fun s =>
    let answer := (field p).run s.2
    (answer.1, s.1.push p, answer.2)

/-- A field whose answers depend on how often it has been asked before. -/
def numbered (answer : Nat → Point Float → Except FormulaError (Point Float)) : VectorField Nat := fun p =>
  ExceptT.mk fun calls => (answer calls p, calls + 1)

end VectorField
end PhasePortrait
