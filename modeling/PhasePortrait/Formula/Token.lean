import PhasePortrait.Text.Alphabetic
import PhasePortrait.Text.Blank
import PhasePortrait.Text.Numeric

/-! # Tokens of a formula

The text of a formula is cut into tokens, each the longest that can be read at its place. White
space separates tokens and is otherwise dropped. The cut never looks at the grammar, and every
character belongs to some token, so it cannot fail.
-/
namespace PhasePortrait
open Text

inductive Token
  /-- Any other character by itself. -/
  | symbol (c : Char)
  /-- A letter or underscore and the letters, digits and underscores after it. -/
  | name (first : Char) (rest : List Char)
  /-- ASCII digits and, after a point, the digits of a fraction; no fraction if that is empty. -/
  | number (first : Char) (whole fraction : List Char)
  /-- ASCII digits and a point with no digit after it, and the character that follows instead. -/
  | unfinished (first : Char) (whole : List Char) (next : Option Char)
  deriving DecidableEq, Repr

def isNameStart (c : Char) : Bool := isAlphabetic c || c = '_'

def isNamePart (c : Char) : Bool := isAlphabetic c || isNumeric c || c = '_'

namespace Token

def first : Token → Char
  | symbol c => c
  | name c _ => c
  | number c _ _ => c
  | unfinished c _ _ => c

def text : Token → List Char
  | symbol c => [c]
  | name c rest => c :: rest
  | number c whole [] => c :: whole
  | number c whole (d :: ds) => c :: whole ++ '.' :: d :: ds
  | unfinished c whole _ => c :: whole ++ ['.']

/-- The longest number that begins with the digit `c`, and the text after it. -/
def readNumber (c : Char) (rest : List Char) : Token × List Char :=
  let whole := rest.takeWhile Char.isDigit
  match rest.dropWhile Char.isDigit with
  | '.' :: after =>
    match after.takeWhile Char.isDigit with
    | [] => (unfinished c whole after.head?, after)
    | d :: ds => (number c whole (d :: ds), after.dropWhile Char.isDigit)
  | after => (number c whole [], after)

/-- The longest token that begins with `c`, which is not white space, and the text after it. -/
def read (c : Char) (rest : List Char) : Token × List Char :=
  if c.isDigit then readNumber c rest
  else if isNameStart c then (name c (rest.takeWhile isNamePart), rest.dropWhile isNamePart)
  else (symbol c, rest)

theorem readNumber_text (c : Char) (rest : List Char) :
    (readNumber c rest).1.text ++ (readNumber c rest).2 = c :: rest := by
  have h := List.takeWhile_append_dropWhile (p := Char.isDigit) (l := rest)
  unfold readNumber
  generalize rest.takeWhile Char.isDigit = whole at h ⊢
  generalize rest.dropWhile Char.isDigit = tail at h ⊢
  subst h
  split
  · rename_i after
    have h := List.takeWhile_append_dropWhile (p := Char.isDigit) (l := after)
    split
    · simp [text]
    · rename_i d ds hd
      rw [hd] at h
      simpa [text] using h
  · simp [text]

theorem read_text (c : Char) (rest : List Char) : (read c rest).1.text ++ (read c rest).2 = c :: rest := by
  unfold read
  split
  · exact readNumber_text c rest
  · split
    · simp [text]
    · rfl

theorem text_ne_nil (t : Token) : t.text ≠ [] := by
  unfold text
  split <;> simp

theorem length_read_lt (c : Char) (rest : List Char) : (read c rest).2.length < (c :: rest).length := by
  have h := congrArg List.length (read_text c rest)
  have hp := List.length_pos_iff.mpr (text_ne_nil (read c rest).1)
  rw [List.length_append] at h
  omega

end Token

/-- A token and the byte position of its first character. -/
structure Lexeme where
  position : Nat
  token : Token
  deriving DecidableEq, Repr

def byteLength : List Char → Nat
  | [] => 0
  | c :: cs => c.utf8Size + byteLength cs

namespace Lexeme

/-- The tokens of a text that begins at the given byte position. -/
def scan (position : Nat) : List Char → List Lexeme
  | [] => []
  | c :: rest =>
    if isBlank c then scan (position + c.utf8Size) rest
    else
      let t := Token.read c rest
      ⟨position, t.1⟩ :: scan (position + byteLength t.1.text) t.2
termination_by cs => cs.length
decreasing_by
  · simp
  · exact Token.length_read_lt c rest

end Lexeme
end PhasePortrait
