import PhasePortrait.Formula.Code
import PhasePortrait.Formula.Reading

/-! # Formulas

An accepted formula: the text as typed and its expression tree.
-/
namespace PhasePortrait

structure Formula where
  text : String
  expr : Expr
  deriving DecidableEq, Repr

namespace Formula

def ofText (text : String) : Except FormulaError Formula := do
  let expr ← parse text
  return ⟨text, expr⟩

def eval {α : Type} [Scalar α] (f : Formula) (state : Point α) : α := f.expr.eval state

def compile (f : Formula) : Code := f.expr.compile

end Formula
end PhasePortrait
