import Mathlib.Logic.Function.Defs
import PhasePortrait.Proofs.StackMachine

/-! # Code read back into trees

Expression trees can be calculated with: the sum of two trees is the tree of their sum. Run on trees instead of
numbers, code builds the trees of what it would compute. How much code takes and leaves does not depend on the
numbers, so code that misses nothing and leaves one value is the code of the tree that it builds, and of no
other tree.
-/
namespace PhasePortrait

/-- Calculating with trees writes the calculation down. -/
instance scalarExpr : Scalar Expr where
  add := .binary .add
  sub := .binary .sub
  mul := .binary .mul
  div := .binary .div
  neg := .negate
  ofFloat := .const
  nan := .const (0 / 0)

/-- The state that is made of the two variables. -/
def coordinates : Point Expr := ⟨.var .x, .var .y⟩

theorem apply_tree (op : BinaryOp) (lhs rhs : Expr) : op.apply lhs rhs = .binary op lhs rhs := by
  cases op <;> rfl

theorem value_coordinates (v : Variable) : v.value coordinates = .var v := by
  cases v <;> rfl

theorem eval_coordinates (e : Expr) : e.eval coordinates = e := by
  induction e with
  | const value => rfl
  | var v => exact value_coordinates v
  | binary op lhs rhs ihl ihr => rw [Expr.eval, ihl, ihr, apply_tree]
  | negate operand ih =>
    rw [Expr.eval, ih]
    rfl

/-- Postfix code can be read in one way only. -/
theorem compile_inj {e e' : Expr} (h : e.compile = e'.compile) : e = e' := by
  have hrun := run_compile e coordinates []
  rw [h, run_compile, eval_coordinates, eval_coordinates] at hrun
  exact (List.cons.inj hrun).1.symm

/-! ## How much code takes and leaves -/

section
variable {α β : Type} [Scalar α] [Scalar β]

namespace Instruction

/-- The number of values that the instruction takes from the stack. It leaves one. -/
def operands : Instruction → Nat
  | load _ | fetch _ => 0
  | apply _ => 2
  | negate => 1

theorem misses_eq (i : Instruction) (stack : List α) : i.misses stack = i.operands - stack.length := by
  cases i with
  | load | fetch => simp [misses, operands]
  | apply op =>
    rcases stack with _ | ⟨r, _ | ⟨l, rest⟩⟩
    · rfl
    · rfl
    · simp [misses, operands, pop]
  | negate => cases stack <;> simp [misses, operands]

theorem length_run (i : Instruction) (state : Point α) (stack : List α) :
    (i.run state stack).length = stack.length - i.operands + 1 := by
  cases i with
  | load | fetch => simp [run, operands]
  | apply op => rcases stack with _ | ⟨r, _ | ⟨l, rest⟩⟩ <;> simp [run, operands, pop]
  | negate => cases stack <;> simp [run, operands, pop]

end Instruction

/-- What code misses and how much it leaves depends on the height of the stack alone. -/
theorem Code.run_congr (code : Code) (state : Point α) (state' : Point β) {stack : List α} {stack' : List β}
    (h : stack.length = stack'.length) :
    misses state code stack = misses state' code stack' ∧
      (code.run state stack).length = (code.run state' stack').length := by
  induction code generalizing stack stack' with
  | nil => exact ⟨rfl, h⟩
  | cons i code ih =>
    have hlength : (i.run state stack).length = (i.run state' stack').length := by
      rw [i.length_run, i.length_run, h]
    obtain ⟨hmisses, hrun⟩ := ih hlength
    rw [misses, misses, i.misses_eq, i.misses_eq, h, hmisses, run_cons, run_cons]
    exact ⟨rfl, hrun⟩

end

/-! ## What a stack of trees was built from -/

/-- The code of the trees on a stack, the lowest one first. -/
def codeOf (stack : List Expr) : Code := stack.reverse.flatMap Expr.compile

theorem codeOf_cons (e : Expr) (stack : List Expr) : codeOf (e :: stack) = codeOf stack ++ e.compile := by
  simp [codeOf]

/-- One more instruction is one more at the end of the code that has built the stack. -/
theorem Instruction.codeOf_run {i : Instruction} {stack : List Expr} (h : i.misses stack = 0) :
    codeOf (i.run coordinates stack) = codeOf stack ++ [i] := by
  cases i with
  | load value => exact codeOf_cons (.const value) stack
  | fetch v => rw [run, value_coordinates, codeOf_cons, Expr.compile]
  | apply op =>
    obtain ⟨hr, hl⟩ := Nat.add_eq_zero_iff.mp h
    obtain ⟨r, rest, rfl⟩ := missing_eq_zero_iff.mp hr
    obtain ⟨l, rest, rfl⟩ := missing_eq_zero_iff.mp hl
    change codeOf (op.apply l r :: rest) = _
    rw [apply_tree, codeOf_cons, codeOf_cons, codeOf_cons, Expr.compile, List.append_assoc, List.append_assoc]
  | negate =>
    obtain ⟨e, rest, rfl⟩ := missing_eq_zero_iff.mp h
    change codeOf (.negate e :: rest) = _
    rw [codeOf_cons, codeOf_cons, Expr.compile, List.append_assoc]

theorem Code.codeOf_run {code : Code} {stack : List Expr} (h : misses coordinates code stack = 0) :
    codeOf (code.run coordinates stack) = codeOf stack ++ code := by
  induction code generalizing stack with
  | nil => rw [run_nil, List.append_nil]
  | cons i code ih =>
    obtain ⟨hi, hcode⟩ := Nat.add_eq_zero_iff.mp h
    rw [run_cons, ih hcode, Instruction.codeOf_run hi, List.append_assoc]
    rfl

theorem exists_compile_eq {code : Code} (hmisses : Code.misses coordinates code [] = 0)
    (hlength : (code.run coordinates []).length = 1) : ∃ e : Expr, e.compile = code := by
  obtain ⟨e, he⟩ := List.length_eq_one_iff.mp hlength
  have hcode := Code.codeOf_run hmisses
  rw [he, codeOf_cons] at hcode
  exact ⟨e, hcode⟩

/-- Code that misses no value when it is run from the empty stack and ends with one value is the code of a tree,
and the code of a tree is such code; different trees have different code. -/
theorem clean_iff_compile {α : Type} [Scalar α] (code : Code) (state : Point α) :
    (Code.misses state code [] = 0 ∧ (code.run state []).length = 1 ↔ ∃ e : Expr, e.compile = code) ∧
    Function.Injective Expr.compile := by
  refine ⟨⟨?_, ?_⟩, fun e e' => compile_inj⟩
  · rintro ⟨hmisses, hlength⟩
    have hempty : ([] : List α).length = ([] : List Expr).length := rfl
    obtain ⟨htrees, htrees'⟩ := code.run_congr state coordinates hempty
    exact exists_compile_eq (htrees ▸ hmisses) (htrees' ▸ hlength)
  · rintro ⟨e, rfl⟩
    rw [misses_compile, run_compile]
    exact ⟨rfl, rfl⟩

theorem clean_iff_compile_quotient :
    let code : Code := [.fetch .x, .load 2, .negate, .fetch .y, .apply .sub, .apply .div]
    let e : Expr := .binary .div (.var .x) (.binary .sub (.negate (.const 2)) (.var .y))
    Code.misses (⟨3, 5⟩ : Point Float) code [] = 0 ∧ (code.run (⟨3, 5⟩ : Point Float) []).length = 1 ∧
    (∃ e : Expr, e.compile = code) ∧ e.compile = code ∧ ∀ e' : Expr, e'.compile = code → e' = e := by
  intro code e
  obtain ⟨hclean, hinj⟩ := clean_iff_compile code (⟨3, 5⟩ : Point Float)
  have hmisses : Code.misses (⟨3, 5⟩ : Point Float) code [] = 0 := rfl
  have hlength : (code.run (⟨3, 5⟩ : Point Float) []).length = 1 := rfl
  exact ⟨hmisses, hlength, hclean.mp ⟨hmisses, hlength⟩, rfl, fun e' h => hinj h⟩

end PhasePortrait
