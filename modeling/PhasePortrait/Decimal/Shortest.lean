/-! # Shortest decimals

A positive double is `mantissa · 2 ^ exponent`, and every real close enough to it rounds to it.
Among the decimals in that interval the shortest are those on the coarsest power-of-ten grid that
meets it, and of these the one nearest the double is chosen. All arithmetic is exact.
-/
namespace PhasePortrait.Decimal

/-- The positive number `mantissa · 2 ^ exponent`. It is `narrow` when the next smaller double is
only half as far away as the next larger one. -/
structure Dyadic where
  mantissa : Nat
  exponent : Int
  narrow : Bool
  deriving DecidableEq, Repr

structure Digits where
  significand : Nat
  exponent : Int
  deriving DecidableEq, Repr

/-- Which of two equally near decimals is taken: the larger, or the one with an even last digit. -/
inductive Tie
  | up
  | even
  deriving DecidableEq, Repr

/-- The number of fractions between one power of two and the next, 2 ^ 52. -/
def fractionCount : Nat := 0x10000000000000

/-- The magnitude of a finite double from its bits. -/
def Dyadic.ofBits (bits : Nat) : Dyadic :=
  let field := bits / fractionCount % 0x800
  let fraction := bits % fractionCount
  if field = 0 then ⟨fraction, -1074, false⟩
  else ⟨fractionCount + fraction, field - 1075, fraction = 0 && 1 < field⟩

/-- The exponent of the leading digit of `numerator / denominator`. -/
def leadingExponent (numerator denominator : Nat) : Int :=
  if denominator ≤ numerator then ((Nat.toDigits 10 (numerator / denominator)).length : Int) - 1
  else -((Nat.toDigits 10 ((denominator - 1) / numerator)).length : Int)

/-- `2 ^ e`, or `1` where `e` is negative. -/
def twoPower (e : Int) : Nat := Nat.pow 2 e.toNat

/-- `10 ^ e`, or `1` where `e` is negative. -/
def tenPower (e : Int) : Nat := Nat.pow 10 e.toNat

namespace Dyadic

def leading (v : Dyadic) : Int :=
  leadingExponent (v.mantissa * twoPower v.exponent) (twoPower (-v.exponent))

/-- The multiple of `10 ^ k` that rounds to `v` and lies nearest to it, if one rounds to it. In
quarters of the last binary place `v` is four times its mantissa and its upper neighbour is four
more; a real midway between two doubles rounds to the one with an even mantissa. -/
def nearestOn (tie : Tie) (v : Dyadic) (k : Int) : Option Digits :=
  let quarter := v.exponent - 2
  let place := twoPower quarter * tenPower (-k)
  let unit := twoPower (-quarter) * tenPower k
  let value := 4 * v.mantissa * place
  let low := (4 * v.mantissa - if v.narrow then 1 else 2) * place
  let high := (4 * v.mantissa + 2) * place
  let closed := v.mantissa % 2 = 0
  let rounds := fun n : Nat => if closed then low ≤ n * unit && n * unit ≤ high
    else low < n * unit && n * unit < high
  let below := value / unit
  let above := below + 1
  match rounds below, rounds above with
  | false, false => none
  | true, false => some ⟨below, k⟩
  | false, true => some ⟨above, k⟩
  | true, true =>
    let down := value - below * unit
    let up := above * unit - value
    if down < up then some ⟨below, k⟩
    else if up < down then some ⟨above, k⟩
    else match tie with
      | .up => some ⟨above, k⟩
      | .even => some ⟨if below % 2 = 0 then below else above, k⟩

/-- The shortest decimal that rounds to `v`. Seventeen digits always suffice for a double. -/
def shortest (tie : Tie) (v : Dyadic) : Digits :=
  let top := v.leading
  ((List.range 17).findSome? fun (n : Nat) => v.nearestOn tie (top - n)).getD ⟨0, 0⟩

end Dyadic
end PhasePortrait.Decimal
