import PhasePortrait.Field.Basic
import PhasePortrait.Formula.Basic

/-! # Fields given by two formulas

The first formula gives the velocity of `x`, the second that of `y`. One field reads both texts anew
for every point; the other runs their code, both on the same stack.
-/
namespace PhasePortrait

structure FormulaPair where
  dx : Formula
  dy : Formula
  deriving DecidableEq, Repr

namespace FormulaPair

def standardDx : String := "x*x+y"

def standardDy : String := "x-y"

/-- Reads both formulas. If both are faulty the error is that of the first. -/
def ofTexts (dx dy : String) : Except FormulaError FormulaPair := do
  let fx ← Formula.ofText dx
  let fy ← Formula.ofText dy
  return ⟨fx, fy⟩

def eval (f : FormulaPair) (p : Point Float) : Point Float := ⟨f.dx.eval p, f.dy.eval p⟩

end FormulaPair

/-- The field that reads the two texts at every point, the first one to its end before the second. -/
def scanningField (dx dy : String) (p : Point Float) : Except FormulaError (Point Float) := do
  let vx ← evaluate dx p
  let vy ← evaluate dy p
  return ⟨vx, vy⟩

structure CodePair where
  dx : Code
  dy : Code
  deriving DecidableEq, Repr

def FormulaPair.compile (f : FormulaPair) : CodePair := ⟨f.dx.compile, f.dy.compile⟩

namespace CodePair

def execute (c : CodePair) (p : Point Float) : StateM (List Float) (Point Float) := do
  let vx ← c.dx.execute p
  let vy ← c.dy.execute p
  return ⟨vx, vy⟩

/-- The field of the code; its state is the stack. -/
def field (c : CodePair) : VectorField (List Float) := fun p => ExceptT.lift (c.execute p)

end CodePair
end PhasePortrait
