/-! # What is wrong with a formula

Every error carries the byte position at which the text stops being the start of a formula.
-/
namespace PhasePortrait

/-- What could have stood at the position of an error. -/
inductive Expected
  | char (c : Char)
  | digit
  | factor
  | endOfInput
  /-- No group deeper than this. -/
  | nesting (limit : Nat)
  /-- No more bytes than this. -/
  | length (limit : Nat)
  deriving DecidableEq, Repr

inductive FormulaError
  /-- Something else than expected was found; nothing is found at the end of the text. -/
  | unexpected (position : Nat) (expected : Expected) (found : Option Char)
  | unknownName (position : Nat) (name : String)
  deriving DecidableEq, Repr

def Expected.description : Expected → String
  | char c => "'" ++ String.singleton c ++ "'"
  | digit => "digit"
  | factor => "number, variable or '('"
  | endOfInput => "end of input"
  | nesting limit => "at most " ++ toString limit ++ " nested groups"
  | length limit => "formula of at most " ++ toString limit ++ " bytes"

namespace FormulaError

def foundDescription : Option Char → String
  | some c => "'" ++ String.singleton c ++ "'"
  | none => "end of input"

def position : FormulaError → Nat
  | unexpected p _ _ => p
  | unknownName p _ => p

def message : FormulaError → String
  | unexpected p expected found =>
    expected.description ++ " expected at position " ++ toString p ++ ", found " ++ foundDescription found
  | unknownName p name =>
    "unknown name `" ++ name ++ "` at position " ++ toString p ++ ": only `x` and `y` are defined"

end FormulaError
end PhasePortrait
