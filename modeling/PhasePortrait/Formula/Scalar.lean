/-! # Numbers in which formulas are evaluated -/
namespace PhasePortrait

/-- A type of floating-point numbers: the four operations, negation, the nearest number to a double
and a value that is no number. -/
class Scalar (α : Type) extends Add α, Sub α, Mul α, Div α, Neg α where
  ofFloat : Float → α
  nan : α

open Float.Model in
/-- The nearest number of single precision; of two nearest ones it is the one with an even mantissa. -/
def toSingle (x : Float) : Float32 :=
  .ofModel (.pack (match x.toModel.unpack with
    | .finite sign mantissa exponent _ => .round .binary32 sign mantissa exponent
    | special => special))

instance : Scalar Float where
  ofFloat v := v
  nan := 0 / 0

instance : Scalar Float32 where
  ofFloat := toSingle
  nan := 0 / 0

end PhasePortrait
