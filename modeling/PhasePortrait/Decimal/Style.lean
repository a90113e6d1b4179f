import PhasePortrait.Decimal.Shortest

/-! # Written numbers

A double is written by its shortest digits, either positionally or with an exponent of ten.
-/
namespace PhasePortrait.Decimal

/-- How the shortest digits are laid out: which exponents of the leading digit are written
positionally (all of them where no range is given), whether a whole number keeps a `.0`, whether a
positive exponent carries a plus sign, and which of two equally near decimals counts. -/
structure Style where
  positional : Option (Int × Int)
  wholePoint : Bool
  plusSign : Bool
  tie : Tie
  deriving DecidableEq, Repr

/-- Positional always, and nothing after a whole number. -/
def Style.plain : Style := ⟨none, false, false, .up⟩

/-- Positional from one ten-thousandth up to 10 ^ 16, whole numbers with `.0`. -/
def Style.precise : Style := ⟨some (-4, 15), true, false, .up⟩

/-- Positional from one hundred-thousandth up to 10 ^ 16, whole numbers with `.0`, positive
exponents with `+`, ties to the even digit. -/
def Style.exchange : Style := ⟨some (-5, 15), true, true, .even⟩

def Digits.characters (d : Digits) : List Char :=
  ((Nat.toDigits 10 d.significand).reverse.dropWhile (· = '0')).reverse

def Digits.leading (d : Digits) : Int :=
  d.exponent + (Nat.toDigits 10 d.significand).length - 1

/-- Digits with the decimal point where the leading exponent puts it. -/
def writePositional (wholePoint : Bool) (digits : List Char) (leading : Int) : List Char :=
  if leading < 0 then
    ['0', '.'] ++ List.replicate (-leading - 1).toNat '0' ++ digits
  else
    let whole := leading.toNat + 1
    let fraction := digits.drop whole
    digits.take whole ++ List.replicate (whole - digits.length) '0' ++
      (if fraction.isEmpty then (if wholePoint then ['.', '0'] else []) else '.' :: fraction)

/-- One digit, the others after a point, and the exponent of ten. -/
def writeExponent (plusSign : Bool) (digits : List Char) (leading : Int) : List Char :=
  digits.take 1 ++ (if (digits.drop 1).isEmpty then [] else '.' :: digits.drop 1) ++
    'e' :: (if plusSign && 0 < leading then ['+'] else []) ++ (toString leading).toList

def Style.magnitude (style : Style) (d : Digits) : List Char :=
  let leading := d.leading
  let digits := d.characters
  match style.positional with
  | none => writePositional style.wholePoint digits leading
  | some (least, most) =>
    if least ≤ leading && leading ≤ most then writePositional style.wholePoint digits leading
    else writeExponent style.plusSign digits leading

def signBit : Nat := 0x8000000000000000

def infinityBits : Nat := 0x7ff0000000000000

/-- The written form of a double. Zero keeps its sign. -/
def Style.write (style : Style) (x : Float) : String :=
  let bits := x.toBits.toNat
  let negative := signBit ≤ bits
  let magnitude := bits % signBit
  if x.isNaN then "NaN"
  else
    let body :=
      if magnitude = infinityBits then ['i', 'n', 'f']
      else if magnitude = 0 then (if style.wholePoint then ['0', '.', '0'] else ['0'])
      else style.magnitude ((Dyadic.ofBits magnitude).shortest style.tie)
    String.ofList (if negative then '-' :: body else body)

end PhasePortrait.Decimal
