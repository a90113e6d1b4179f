import PhasePortrait.Proofs.Nesting
import PhasePortrait.Proofs.StackMachine

/-! # How large accepted formulas become

The length of a text bounds the size and the height of its tree, and with the size the length of its code. The
stack of a run does not grow with the length: sums and products are worked off from the left, so that at any
moment a sum and a product wait in each of the open groups and nothing else does.
-/
namespace PhasePortrait
open Text

/-! ## Code -/

theorem length_compile (e : Expr) : e.compile.length = e.size := by
  induction e with
  | const | var => rfl
  | binary op lhs rhs ihl ihr =>
    rw [Expr.compile, Expr.size, List.length_append, List.length_append, ihl, ihr, List.length_singleton,
      Nat.add_assoc]
  | negate operand ih => rw [Expr.compile, Expr.size, List.length_append, ih, List.length_singleton]

/-- The greatest number of values on the stack while the tree is evaluated on it. -/
def Expr.stackNeed : Expr → Nat
  | const _ | var _ => 1
  | binary _ lhs rhs => max lhs.stackNeed (rhs.stackNeed + 1)
  | negate operand => operand.stackNeed

theorem Expr.stackNeed_pos (e : Expr) : 0 < e.stackNeed := by
  induction e with
  | const | var => exact Nat.one_pos
  | binary op lhs rhs ihl ihr => exact Nat.lt_of_lt_of_le ihl (Nat.le_max_left _ _)
  | negate operand ih => exact ih

section
variable {α : Type} [Scalar α]

theorem length_run_compile_le (e : Expr) (state : Point α) (stack : List α) :
    (e.compile.run state stack).length ≤ stack.length + e.stackNeed := by
  have hpos := e.stackNeed_pos
  rw [run_compile, List.length_cons]
  omega

theorem length_run_singleton_le {i : Instruction} {e : Expr} (hi : e.compile = [i]) {done : Code}
    (h : done <+: [i]) (state : Point α) (stack : List α) :
    (done.run state stack).length ≤ stack.length + e.stackNeed := by
  rcases List.prefix_cons_iff.mp h with rfl | ⟨more, rfl, hmore⟩
  · exact Nat.le_add_right _ _
  · rw [List.prefix_nil.mp hmore, ← hi]
    exact length_run_compile_le e state stack

/-- However much of the code of a tree has been run, no more values lie on the stack than the tree needs. -/
theorem length_run_le {e : Expr} {done : Code} (h : done <+: e.compile) (state : Point α) (stack : List α) :
    (done.run state stack).length ≤ stack.length + e.stackNeed := by
  induction e generalizing done stack with
  | const value => exact length_run_singleton_le (e := .const value) rfl h state stack
  | var v => exact length_run_singleton_le (e := .var v) rfl h state stack
  | binary op lhs rhs ihl ihr =>
    rw [Expr.compile, ← List.append_assoc, List.prefix_concat_iff, List.append_assoc] at h
    rcases h with rfl | ⟨rest, h⟩
    · exact length_run_compile_le (.binary op lhs rhs) state stack
    · rw [Expr.stackNeed]
      rcases List.append_eq_append_iff.mp h with ⟨more, hl, -⟩ | ⟨more, rfl, hr⟩
      · have hlhs := ihl ⟨more, hl.symm⟩ stack
        omega
      · -- the value of the left operand waits below the values of the right one
        have hrhs := ihr ⟨rest, hr.symm⟩ (lhs.eval state :: stack)
        rw [Code.run_append, run_compile]
        rw [List.length_cons] at hrhs
        omega
  | negate operand ih =>
    rw [Expr.compile, List.prefix_concat_iff] at h
    rcases h with rfl | h
    · exact length_run_compile_le (.negate operand) state stack
    · exact ih h stack

end

/-! ## Trees -/

theorem Expr.size_pos (e : Expr) : 0 < e.size := by
  cases e <;> simp [Expr.size]

/-- Every node of the tree has a character of its own. -/
theorem Derives.size_le {k : Phrase} {n : Nat} {s : List Char} {e : Expr} (h : Derives k n s e) :
    e.size ≤ s.length := by
  induction h with
  | ofTerm _ ih | ofFactor _ ih | ofPrimary _ ih => exact ih
  | sum _ _ _ _ ihl ihr | product _ _ _ _ ihl ihr =>
    simp only [Expr.size, List.length_append, List.length_cons]
    omega
  | negate _ _ ih | group _ _ _ ih =>
    simp only [Expr.size, List.length_append, List.length_cons]
    omega
  | @«variable» n w v hw => cases v <;> simp [Expr.size, Variable.name]
  | whole _ hd | decimal _ hd _ =>
    have hpos := List.length_pos_iff.mpr hd.1
    simp only [Expr.size, List.length_append]
    omega

/-- What a text may lack of two characters for each level of the tree: a sign has only one of its own. -/
def Phrase.slack : Phrase → Nat
  | primary => 1
  | expression | term | factor => 2

theorem Derives.height_le {k : Phrase} {n : Nat} {s : List Char} {e : Expr} (h : Derives k n s e) :
    2 * e.height ≤ s.length + k.slack := by
  induction h with
  | ofTerm _ ih | ofFactor _ ih => exact ih
  | ofPrimary _ ih => exact Nat.le_succ_of_le ih
  | @sum _ _ _ _ l r _ hl _ _ hr ihl ihr | @product _ _ _ _ l r _ hl _ _ hr ihl ihr =>
    have hpl := Nat.lt_of_lt_of_le l.size_pos hl.size_le
    have hpr := Nat.lt_of_lt_of_le r.size_pos hr.size_le
    simp only [Expr.height, Phrase.slack, List.length_append, List.length_cons] at *
    omega
  | negate _ _ ih | group _ _ _ ih =>
    simp only [Expr.height, Phrase.slack, List.length_append, List.length_cons] at *
    omega
  | @«variable» n w v hw => cases v <;> simp [Expr.height, Phrase.slack, Variable.name]
  | whole _ hd | decimal _ hd _ =>
    have hpos := List.length_pos_iff.mpr hd.1
    simp only [Expr.height, Phrase.slack, List.length_append]
    omega

/-- The values that a phrase needs room for where no group is open: that of a sum, that of a product and that
of a factor. -/
def Phrase.room : Phrase → Nat
  | expression => 3
  | term => 2
  | factor | primary => 1

theorem Derives.stackNeed_le {k : Phrase} {n : Nat} {s : List Char} {e : Expr} (h : Derives k n s e) :
    e.stackNeed ≤ 2 * n + k.room := by
  induction h with
  | ofTerm _ ih | ofFactor _ ih => exact Nat.le_succ_of_le ih
  | ofPrimary _ ih => exact ih
  | sum _ _ _ _ ihl ihr | product _ _ _ _ ihl ihr => exact Nat.max_le.mpr ⟨ihl, Nat.succ_le_succ ihr⟩
  | negate _ _ ih | group _ _ _ ih => exact ih
  | «variable» | whole | decimal => exact Nat.le_add_left _ _

/-! ## Accepted texts -/

section
variable {n : Nat} {s : List Char} {e : Expr} (h : IsFormula n s e)
include h

theorem IsFormula.size_le : e.size ≤ s.length := by
  obtain ⟨body, trailing, hb, -, rfl⟩ := h
  rw [List.length_append]
  exact Nat.le_add_right_of_le hb.size_le

theorem IsFormula.height_le : 2 * (e.height - 1) ≤ s.length := by
  obtain ⟨body, trailing, hb, -, rfl⟩ := h
  have hheight := hb.height_le
  rw [Phrase.slack] at hheight
  rw [List.length_append]
  omega

/-- At any moment of a run from an empty stack. -/
theorem IsFormula.length_run_le {α : Type} [Scalar α] (state : Point α) {done : Code} (hdone : done <+: e.compile) :
    (done.run state []).length ≤ 2 * n + 3 := by
  obtain ⟨body, trailing, hb, -, -⟩ := h
  have hrun := PhasePortrait.length_run_le hdone state []
  rw [List.length_nil, Nat.zero_add] at hrun
  exact Nat.le_trans hrun hb.stackNeed_le

end

theorem length_le_byteLength (s : List Char) : s.length ≤ byteLength s := by
  induction s with
  | nil => exact Nat.le_refl 0
  | cons c s ih =>
    have hpos := c.utf8Size_pos
    rw [List.length_cons, byteLength]
    omega

/-- The tree of an accepted text has no more nodes than the text has bytes, its code has one instruction for each
node, and its height is at most one more than half the bytes, so at most 2049. While the code is executed, which
begins with an empty stack, no more than `2 * d + 3` values lie on the stack at any moment if no more than `d`
parentheses are open at once, so never more than 131. -/
theorem parse_bounds {text : String} {e : Expr} (h : parse text = .ok e) {α : Type} [Scalar α] (state : Point α) :
    e.size ≤ text.utf8ByteSize ∧ e.compile.length = e.size ∧
    2 * (e.height - 1) ≤ text.utf8ByteSize ∧ e.height ≤ 2049 ∧
    (∀ d, nesting text.toList ≤ d → ∀ done : Code, done <+: e.compile → (done.run state []).length ≤ 2 * d + 3) ∧
    nesting text.toList ≤ 64 ∧ ∀ done : Code, done <+: e.compile → (done.run state []).length ≤ 131 := by
  obtain ⟨hbytes, hf⟩ := (accepts_iff text e).mp h
  have hlength := length_le_byteLength text.toList
  rw [byteLength_toList] at hlength
  have hsize : e.size ≤ text.utf8ByteSize := Nat.le_trans hf.size_le hlength
  have hheight : 2 * (e.height - 1) ≤ text.utf8ByteSize := Nat.le_trans hf.height_le hlength
  have hlimit : e.height ≤ 2049 := by omega
  have hnesting : nesting text.toList ≤ 64 := (isFormula_iff_nesting_le hf).mp hf
  refine ⟨hsize, length_compile e, hheight, hlimit, ?_, hnesting, fun done => hf.length_run_le state⟩
  intro d hd done hdone
  exact ((isFormula_iff_nesting_le hf).mpr hd).length_run_le state hdone

/-- One group, and five values: two wait outside of it and three are inside. -/
theorem parse_bounds_nested :
    let e : Expr := .binary .add (.var .x) (.binary .mul (.var .y)
      (.binary .add (.var .x) (.binary .mul (.var .y) (.var .x))))
    parse "x+y*(x+y*x)" = .ok e ∧ nesting "x+y*(x+y*x)".toList ≤ 1 ∧
    [.fetch .x, .fetch .y, .fetch .x, .fetch .y, .fetch .x] <+: e.compile ∧
    e.size ≤ 11 ∧ 2 * (e.height - 1) ≤ 11 ∧
    (Code.run [.fetch .x, .fetch .y, .fetch .x, .fetch .y, .fetch .x] (⟨3, 5⟩ : Point Float) []).length ≤
      2 * 1 + 3 := by
  intro e
  have hp : parse "x+y*(x+y*x)" = .ok e := by decide +kernel
  have hnesting : nesting "x+y*(x+y*x)".toList ≤ 1 := by decide
  have hdone : [.fetch .x, .fetch .y, .fetch .x, .fetch .y, .fetch .x] <+: e.compile := by decide
  have hbytes : "x+y*(x+y*x)".utf8ByteSize = 11 := by decide
  obtain ⟨hsize, -, hheight, -, hstack, -, -⟩ := parse_bounds hp (⟨3, 5⟩ : Point Float)
  rw [hbytes] at hsize hheight
  exact ⟨hp, hnesting, hdone, hsize, hheight, hstack 1 hnesting _ hdone⟩

end PhasePortrait
