import PhasePortrait.Settings.Basic
import PhasePortrait.Settings.Document

/-! # Reading settings from a document

Settings are a record with a name for each field, or a sequence of the fields in order. A record may
leave out fields of the settings, which then have their standard value, but no corner of a rectangle
and no side of a grid. Names that are none of a field are ignored. Nothing is checked here beyond the
type of each value.
-/
namespace PhasePortrait

inductive Shape
  | number
  | size
  | bounds
  | grid
  | settings
  deriving DecidableEq, Repr

def Shape.description : Shape → String
  | number => "f64"
  | size => "usize"
  | bounds => "struct Bounds"
  | grid => "struct GridSpec"
  | settings => "struct PlaneConfig"

def Shape.fields : Shape → Nat
  | number | size => 0
  | bounds => 4
  | grid => 2
  | settings => 6

inductive ReadError
  | wrongType (found : Document) (expected : Shape)
  | negativeSize (n : Int)
  | missing (field : String)
  /-- A sequence that ends after `length` items. -/
  | tooShort (length : Nat) (expected : Shape)
  | tooLong (length : Nat)

namespace ReadError

def message : ReadError → String
  | wrongType found expected => "invalid type: " ++ found.description ++ ", expected " ++ expected.description
  | negativeSize n => "invalid value: integer `" ++ toString n ++ "`, expected " ++ Shape.size.description
  | missing field => "missing field `" ++ field ++ "`"
  | tooShort length expected =>
    "invalid length " ++ toString length ++ ", expected " ++ expected.description ++ " with " ++
      toString expected.fields ++ " elements"
  | tooLong length => "invalid length " ++ toString length ++ ", expected fewer elements in array"

end ReadError

namespace Document
variable {α : Type}

def readNumber : Document → Except ReadError Float
  | natural n => .ok n.toFloat
  | negative n => .ok (Float.ofInt n)
  | real x => .ok x
  | d => .error (.wrongType d .number)

def readSize : Document → Except ReadError UInt64
  | natural n => .ok n
  | negative n => .error (.negativeSize n)
  | d => .error (.wrongType d .size)

def readEntry (read : Document → Except ReadError α) (entries : List (String × Document)) (name : String) :
    Except ReadError (Option α) :=
  match entry? entries name with
  | none => .ok none
  | some d => (read d).map some

def required (name : String) : Option α → Except ReadError α
  | none => .error (.missing name)
  | some v => .ok v

/-- The first item of a sequence, of which `index` items have been read, and the others. -/
def readItem (read : Document → Except ReadError α) (shape : Shape) (index : Nat) :
    List Document → Except ReadError (α × List Document)
  | [] => .error (.tooShort index shape)
  | d :: rest => (read d).map fun v => (v, rest)

/-- As `readItem`, with a value that stands in where the sequence has ended. -/
def readItemOr (read : Document → Except ReadError α) (standard : α) :
    List Document → Except ReadError (α × List Document)
  | [] => .ok (standard, [])
  | d :: rest => (read d).map fun v => (v, rest)

/-- Nothing may follow the last field of a sequence. -/
def endOfItems (items rest : List Document) (v : α) : Except ReadError α :=
  if rest.isEmpty then .ok v else .error (.tooLong items.length)

/-- The values are read in the order of their names; only then are missing ones reported. -/
def readBounds : Document → Except ReadError (Bounds Float)
  | record entries => do
    let maxX? ← readEntry readNumber entries "max_x"
    let maxY? ← readEntry readNumber entries "max_y"
    let minX? ← readEntry readNumber entries "min_x"
    let minY? ← readEntry readNumber entries "min_y"
    let minX ← required "min_x" minX?
    let minY ← required "min_y" minY?
    let maxX ← required "max_x" maxX?
    let maxY ← required "max_y" maxY?
    return ⟨minX, minY, maxX, maxY⟩
  | sequence items => do
    let (minX, rest) ← readItem readNumber .bounds 0 items
    let (minY, rest) ← readItem readNumber .bounds 1 rest
    let (maxX, rest) ← readItem readNumber .bounds 2 rest
    let (maxY, rest) ← readItem readNumber .bounds 3 rest
    endOfItems items rest ⟨minX, minY, maxX, maxY⟩
  | d => .error (.wrongType d .bounds)

def readGrid : Document → Except ReadError Grid
  | record entries => do
    let cols? ← readEntry readSize entries "cols"
    let rows? ← readEntry readSize entries "rows"
    let rows ← required "rows" rows?
    let cols ← required "cols" cols?
    return ⟨rows, cols⟩
  | sequence items => do
    let (rows, rest) ← readItem readSize .grid 0 items
    let (cols, rest) ← readItem readSize .grid 1 rest
    endOfItems items rest ⟨rows, cols⟩
  | d => .error (.wrongType d .grid)

def readSettings : Document → Except ReadError Settings
  | record entries => do
    let arrowLength? ← readEntry readNumber entries "arrow_length"
    let bounds? ← readEntry readBounds entries "bounds"
    let timeStep? ← readEntry readNumber entries "dt"
    let grid? ← readEntry readGrid entries "grid"
    let halfSteps? ← readEntry readSize entries "half_steps"
    let maxTrajectories? ← readEntry readSize entries "max_trajectories"
    let s := Settings.standard
    return ⟨bounds?.getD s.bounds, grid?.getD s.grid, arrowLength?.getD s.arrowLength,
      timeStep?.getD s.timeStep, halfSteps?.getD s.halfSteps, maxTrajectories?.getD s.maxTrajectories⟩
  | sequence items => do
    let s := Settings.standard
    let (bounds, rest) ← readItemOr readBounds s.bounds items
    let (grid, rest) ← readItemOr readGrid s.grid rest
    let (arrowLength, rest) ← readItemOr readNumber s.arrowLength rest
    let (timeStep, rest) ← readItemOr readNumber s.timeStep rest
    let (halfSteps, rest) ← readItemOr readSize s.halfSteps rest
    let (maxTrajectories, rest) ← readItemOr readSize s.maxTrajectories rest
    endOfItems items rest ⟨bounds, grid, arrowLength, timeStep, halfSteps, maxTrajectories⟩
  | d => .error (.wrongType d .settings)

end Document

/-! ## Writing -/

def Bounds.document (b : Bounds Float) : Document :=
  .record [("min_x", .real b.minX), ("min_y", .real b.minY), ("max_x", .real b.maxX), ("max_y", .real b.maxY)]

def Grid.document (g : Grid) : Document := .record [("rows", .natural g.rows), ("cols", .natural g.cols)]

def Settings.document (s : Settings) : Document :=
  .record [("bounds", s.bounds.document), ("grid", s.grid.document), ("arrow_length", .real s.arrowLength),
    ("dt", .real s.timeStep), ("half_steps", .natural s.halfSteps),
    ("max_trajectories", .natural s.maxTrajectories)]

end PhasePortrait
