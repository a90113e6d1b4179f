import PhasePortrait.Plane.Bounds

/-! # The sampling grid

The rectangle on display is cut into `rows × cols` equal cells. A node is the centre of a cell;
row 0 is the lowest row and column 0 the leftmost column.
-/
namespace PhasePortrait

structure Grid where
  rows : UInt64
  cols : UInt64
  deriving DecidableEq, Repr

/-- The product where it fits into a word, and the greatest word where it does not. -/
def saturatingMul (a b : UInt64) : UInt64 :=
  if a.toNat * b.toNat < UInt64.size then a * b else UInt64.ofNat (UInt64.size - 1)

theorem toNat_saturatingMul (a b : UInt64) :
    (saturatingMul a b).toNat = min (a.toNat * b.toNat) (UInt64.size - 1) := by
  unfold saturatingMul
  split
  · rename_i h
    rw [UInt64.toNat_mul, Nat.mod_eq_of_lt h]
    omega
  · rename_i h
    have e : (UInt64.ofNat (UInt64.size - 1)).toNat = UInt64.size - 1 := by decide
    omega

namespace Grid

def maxNodes : Nat := 250000

def standard : Grid := ⟨25, 25⟩

def count (g : Grid) : Nat := g.rows.toNat * g.cols.toNat

/-- The number of nodes as a word; it saturates. -/
def size (g : Grid) : UInt64 := saturatingMul g.rows g.cols

def isEmpty (g : Grid) : Bool := g.size == 0

theorem toNat_size (g : Grid) : g.size.toNat = min g.count (UInt64.size - 1) :=
  toNat_saturatingMul g.rows g.cols

variable {α : Type} [Add α] [Sub α] [Mul α] [Div α] [OfScientific α] [NatCast α]

/-- The centre of the cell in the given row and column. -/
def node (g : Grid) (b : Bounds α) (row col : Nat) : Point α :=
  let dx := b.width / (g.cols.toNat : α)
  let dy := b.height / (g.rows.toNat : α)
  ⟨b.minX + ((col : α) + 0.5) * dx, b.minY + ((row : α) + 0.5) * dy⟩

/-- The `k`-th node, rows from the lowest, each from left to right. -/
def nodeAt (g : Grid) (b : Bounds α) (k : Nat) : Point α :=
  g.node b (k / g.cols.toNat) (k % g.cols.toNat)

end Grid

instance natCastFloat : NatCast Float := ⟨Float.ofNat⟩

inductive GridError
  | empty (rows cols : UInt64)
  | tooLarge (rows cols : UInt64)
  deriving DecidableEq, Repr

namespace GridError

def message : GridError → String
  | empty rows cols =>
    "Grid must have at least one row and column (got " ++ toString rows ++ "x" ++ toString cols ++ ")."
  | tooLarge rows cols =>
    "Grid of " ++ toString rows ++ "x" ++ toString cols ++ " exceeds " ++ toString Grid.maxNodes ++ " nodes."

end GridError

def Grid.check (g : Grid) : Except GridError Unit :=
  if g.isEmpty then .error (.empty g.rows g.cols)
  else if g.size.toNat > Grid.maxNodes then .error (.tooLarge g.rows g.cols)
  else .ok ()

end PhasePortrait
