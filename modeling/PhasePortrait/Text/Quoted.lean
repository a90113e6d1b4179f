import PhasePortrait.Text.Combining
import PhasePortrait.Text.Unprintable

/-! # Quoted text

Text between double quotes. A backslash escapes the two characters that would end or bend the
quotation, the common control characters, and, by code point, every other character that does not
show by itself.
-/
namespace PhasePortrait.Text

/-- A character by its code point: lower-case hexadecimal digits in braces, as few as it takes. -/
def codeEscape (c : Char) : List Char :=
  ['\\', 'u', '\x7b'] ++ Nat.toDigits 16 c.toNat ++ ['\x7d']

/-- The written form of one character inside quotes. Characters that do not print and marks that
would attach to the character before them are written by code point. -/
def escape : Char → List Char
  | '"' => ['\\', '"']
  | '\\' => ['\\', '\\']
  | '\n' => ['\\', 'n']
  | '\r' => ['\\', 'r']
  | '\t' => ['\\', 't']
  | '\x00' => ['\\', '0']
  | c => if isCombining c || isUnprintable c then codeEscape c else [c]

def quoted (s : String) : String := String.ofList ('"' :: s.toList.flatMap escape ++ ['"'])

end PhasePortrait.Text
