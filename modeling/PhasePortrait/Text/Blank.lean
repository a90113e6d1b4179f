import PhasePortrait.Text.CodeRange

/-! # White space

The characters with the Unicode property `White_Space`: 25 code points. Zero-width characters
and the separators U+001C to U+001F are not among them.
-/
namespace PhasePortrait.Text

def blankRanges : List (Nat × Nat) :=
  [(0x9, 0xd), (0x20, 0x20), (0x85, 0x85), (0xa0, 0xa0), (0x1680, 0x1680), (0x2000, 0x200a),
   (0x2028, 0x2029), (0x202f, 0x202f), (0x205f, 0x205f), (0x3000, 0x3000)]

def isBlank (c : Char) : Bool := listed blankRanges c

end PhasePortrait.Text
