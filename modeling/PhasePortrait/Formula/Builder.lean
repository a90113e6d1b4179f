import PhasePortrait.Formula.Expr

/-! # What is made of a formula

Reading a formula produces its constants, variables and operations in the order of evaluation. A
builder says what is made of each; the parts may be made in any monad.
-/
namespace PhasePortrait

structure Builder (m : Type → Type) (V : Type) where
  const : Float → m V
  var : Variable → m V
  binary : BinaryOp → V → V → m V
  negate : V → m V

namespace Builder

def tree : Builder Id Expr where
  const := Expr.const
  var := Expr.var
  binary := Expr.binary
  negate := Expr.negate

/-- Builds the value at a state, keeping nothing of the formula. -/
def value {α : Type} [Scalar α] (state : Point α) : Builder Id α where
  const v := (Scalar.ofFloat v : α)
  var v := v.value state
  binary op a b := (op.apply a b : α)
  negate a := (-a : α)

end Builder

/-- What a builder makes of a tree: the parts in the order of evaluation, left before right. -/
def Expr.build {m : Type → Type} [Monad m] {V : Type} (b : Builder m V) : Expr → m V
  | const value => b.const value
  | var v => b.var v
  | binary op lhs rhs => do
    let l ← lhs.build b
    let r ← rhs.build b
    b.binary op l r
  | negate operand => do
    let v ← operand.build b
    b.negate v

end PhasePortrait
