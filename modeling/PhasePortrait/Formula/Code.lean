import PhasePortrait.Formula.Expr

/-! # Postfix code

A formula compiled to instructions for a stack machine. Code made from a tree leaves one value on
top of the stack it starts from; other code may run out of values and then reads ones that are no
numbers.
-/
namespace PhasePortrait

inductive Instruction
  | load (value : Float)
  | fetch (v : Variable)
  | apply (op : BinaryOp)
  | negate
  deriving DecidableEq, Repr

abbrev Code := List Instruction

def Expr.compile : Expr → Code
  | const value => [.load value]
  | var v => [.fetch v]
  | binary op lhs rhs => lhs.compile ++ (rhs.compile ++ [.apply op])
  | negate operand => operand.compile ++ [.negate]

variable {α : Type} [Scalar α]

/-- The top of the stack and what lies below it. -/
def pop : List α → α × List α
  | [] => (Scalar.nan, [])
  | v :: rest => (v, rest)

/-- One instruction. The right operand of an operation lies above the left one. -/
def Instruction.run (state : Point α) (stack : List α) : Instruction → List α
  | load value => Scalar.ofFloat value :: stack
  | fetch v => v.value state :: stack
  | apply op =>
    let right := pop stack
    let left := pop right.2
    op.apply left.1 right.1 :: left.2
  | negate =>
    let top := pop stack
    (-top.1 :: top.2)

namespace Code

@[specialize] def run (code : Code) (state : Point α) (stack : List α) : List α :=
  code.foldl (Instruction.run state) stack

/-- Empties the stack, runs the code and takes the value on top. -/
def execute (code : Code) (state : Point α) : StateM (List α) α :=
  modifyGet fun _ => pop (code.run state [])

end Code
end PhasePortrait
