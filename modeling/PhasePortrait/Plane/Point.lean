/-! # Points of the plane

Points and displacements with coordinates in any type of numbers. The operations are those of the
coordinates, one by one and in the order written, so a statement about rational points and a
statement about doubles are about the same definitions.
-/
namespace PhasePortrait

@[ext] structure Point (α : Type) where
  x : α
  y : α
  deriving DecidableEq, Repr

namespace Point
variable {α β : Type}

instance [Add α] : Add (Point α) := ⟨fun p q => ⟨p.x + q.x, p.y + q.y⟩⟩
instance [Sub α] : Sub (Point α) := ⟨fun p q => ⟨p.x - q.x, p.y - q.y⟩⟩
instance [Neg α] : Neg (Point α) := ⟨fun p => ⟨-p.x, -p.y⟩⟩

instance [Mul α] : HMul (Point α) α (Point α) := ⟨fun p c => ⟨p.x * c, p.y * c⟩⟩

def map (f : α → β) (p : Point α) : Point β := ⟨f p.x, f p.y⟩

/-- Both coordinates, `x` first. -/
def toList (p : Point α) : List α := [p.x, p.y]

@[simp] theorem x_add [Add α] (p q : Point α) : (p + q).x = p.x + q.x := rfl
@[simp] theorem y_add [Add α] (p q : Point α) : (p + q).y = p.y + q.y := rfl
@[simp] theorem x_sub [Sub α] (p q : Point α) : (p - q).x = p.x - q.x := rfl
@[simp] theorem y_sub [Sub α] (p q : Point α) : (p - q).y = p.y - q.y := rfl
@[simp] theorem x_neg [Neg α] (p : Point α) : (-p).x = -p.x := rfl
@[simp] theorem y_neg [Neg α] (p : Point α) : (-p).y = -p.y := rfl
@[simp] theorem x_mul [Mul α] (p : Point α) (c : α) : (p * c).x = p.x * c := rfl
@[simp] theorem y_mul [Mul α] (p : Point α) (c : α) : (p * c).y = p.y * c := rfl

end Point
end PhasePortrait
