import PhasePortrait.Formula.Scalar
import PhasePortrait.Plane.Point

/-! # Expression trees

What a formula in the two state variables means.
-/
namespace PhasePortrait

inductive Variable
  | x
  | y
  deriving DecidableEq, Repr

namespace Variable

def ofName? : List Char → Option Variable
  | ['x'] => some x
  | ['y'] => some y
  | _ => none

def name : Variable → List Char
  | x => ['x']
  | y => ['y']

/-- The value of a variable at a state of the system. -/
def value {α : Type} (v : Variable) (state : Point α) : α :=
  match v with
  | x => state.x
  | y => state.y

theorem ofName?_eq_some_iff {s : List Char} {v : Variable} : ofName? s = some v ↔ s = v.name := by
  constructor
  · intro h
    unfold ofName? at h
    split at h <;> cases h <;> rfl
  · rintro rfl
    cases v <;> rfl

end Variable

inductive BinaryOp
  | add
  | sub
  | mul
  | div
  deriving DecidableEq, Repr

namespace BinaryOp

def symbol : BinaryOp → Char
  | add => '+'
  | sub => '-'
  | mul => '*'
  | div => '/'

/-- The operations that combine terms to sums. -/
def additive? : Char → Option BinaryOp
  | '+' => some add
  | '-' => some sub
  | _ => none

/-- The operations that combine factors to products. -/
def multiplicative? : Char → Option BinaryOp
  | '*' => some mul
  | '/' => some div
  | _ => none

/-- Plain arithmetic: what a division by zero gives is the business of the numbers. -/
def apply {α : Type} [Add α] [Sub α] [Mul α] [Div α] (op : BinaryOp) (a b : α) : α :=
  match op with
  | add => a + b
  | sub => a - b
  | mul => a * b
  | div => a / b

end BinaryOp

inductive Expr
  | const (value : Float)
  | var (v : Variable)
  | binary (op : BinaryOp) (lhs rhs : Expr)
  | negate (operand : Expr)
  deriving DecidableEq, Repr

namespace Expr

def eval {α : Type} [Scalar α] (state : Point α) : Expr → α
  | const value => Scalar.ofFloat value
  | var v => v.value state
  | binary op lhs rhs => op.apply (lhs.eval state) (rhs.eval state)
  | negate operand => -operand.eval state

def size : Expr → Nat
  | const _ | var _ => 1
  | binary _ lhs rhs => lhs.size + rhs.size + 1
  | negate operand => operand.size + 1

/-- The number of nodes on the longest way down from the root. -/
def height : Expr → Nat
  | const _ | var _ => 1
  | binary _ lhs rhs => max lhs.height rhs.height + 1
  | negate operand => operand.height + 1

end Expr
end PhasePortrait
