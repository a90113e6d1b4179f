import PhasePortrait.Formula.Code

/-! # The stack machine and the trees it runs

Runs are counted for the values they try to take from a stack that has none left. Code that misses
none works on its own values alone, and code made from a tree is such code: it leaves the value of
the tree above a stack that it never touches.
-/
namespace PhasePortrait
variable {α : Type} [Scalar α]

/-- How many values are missing when one is taken from the stack. -/
def missing (stack : List α) : Nat := if stack.isEmpty then 1 else 0

omit [Scalar α] in
@[simp] theorem missing_nil : missing ([] : List α) = 1 := rfl

omit [Scalar α] in
@[simp] theorem missing_cons (v : α) (stack : List α) : missing (v :: stack) = 0 := rfl

omit [Scalar α] in
theorem missing_eq_zero_iff {stack : List α} : missing stack = 0 ↔ ∃ v rest, stack = v :: rest := by
  cases stack with
  | nil => simp
  | cons v rest => simp

/-- The values missing while one instruction runs, one count for each value it takes. -/
def Instruction.misses (stack : List α) : Instruction → Nat
  | load _ | fetch _ => 0
  | apply _ => missing stack + missing (pop stack).2
  | negate => missing stack

/-- An instruction that misses nothing works above any stack as it does on its own. -/
theorem Instruction.run_append {i : Instruction} {stack : List α} (h : i.misses stack = 0)
    (state : Point α) (below : List α) :
    i.run state (stack ++ below) = i.run state stack ++ below ∧ i.misses (stack ++ below) = 0 := by
  cases i with
  | load value => exact ⟨rfl, rfl⟩
  | fetch v => exact ⟨rfl, rfl⟩
  | apply op =>
    obtain ⟨hr, hl⟩ := Nat.add_eq_zero_iff.mp h
    obtain ⟨r, rest, rfl⟩ := missing_eq_zero_iff.mp hr
    obtain ⟨l, rest, rfl⟩ := missing_eq_zero_iff.mp hl
    exact ⟨rfl, rfl⟩
  | negate =>
    obtain ⟨v, rest, rfl⟩ := missing_eq_zero_iff.mp h
    exact ⟨rfl, rfl⟩

namespace Code

/-- The values missing during a run, up to its last instruction. -/
def misses (state : Point α) : Code → List α → Nat
  | [], _ => 0
  | i :: code, stack => i.misses stack + misses state code (i.run state stack)

/-- The values missing while the code is executed, the one that is the result included. -/
def missesOfExecute (code : Code) (state : Point α) : Nat :=
  misses state code [] + missing (code.run state [])

@[simp] theorem run_nil (state : Point α) (stack : List α) : run [] state stack = stack := rfl

@[simp] theorem run_cons (i : Instruction) (code : Code) (state : Point α) (stack : List α) :
    run (i :: code) state stack = run code state (i.run state stack) := rfl

theorem run_append (code more : Code) (state : Point α) (stack : List α) :
    run (code ++ more) state stack = run more state (run code state stack) := List.foldl_append

theorem misses_append (code more : Code) (state : Point α) (stack : List α) :
    misses state (code ++ more) stack = misses state code stack + misses state more (code.run state stack) := by
  induction code generalizing stack with
  | nil => simp [misses]
  | cons i code ih =>
    rw [List.cons_append, misses, misses, ih, run_cons]
    omega

/-- A run that misses nothing leaves whatever lies below its own values as it is. -/
theorem run_append_stack {code : Code} {state : Point α} {stack : List α}
    (h : misses state code stack = 0) (below : List α) :
    code.run state (stack ++ below) = code.run state stack ++ below ∧ misses state code (stack ++ below) = 0 := by
  induction code generalizing stack with
  | nil => exact ⟨rfl, rfl⟩
  | cons i code ih =>
    obtain ⟨hi, hc⟩ := Nat.add_eq_zero_iff.mp h
    obtain ⟨hrun, hmisses⟩ := Instruction.run_append hi state below
    obtain ⟨ihrun, ihmisses⟩ := ih hc
    rw [run_cons, run_cons, misses, hrun, hmisses, ihmisses]
    exact ⟨ihrun, rfl⟩

end Code

/-! ## Code made from a tree -/

theorem run_compile (e : Expr) (state : Point α) (stack : List α) :
    e.compile.run state stack = e.eval state :: stack := by
  induction e generalizing stack with
  | const value => rfl
  | var v => rfl
  | binary op lhs rhs ihl ihr =>
    -- the value of the right operand lies above that of the left one when they are taken
    rw [Expr.compile, Code.run_append, ihl, Code.run_append, ihr]
    rfl
  | negate operand ih =>
    rw [Expr.compile, Code.run_append, ih]
    rfl

theorem misses_compile (e : Expr) (state : Point α) (stack : List α) :
    Code.misses state e.compile stack = 0 := by
  induction e generalizing stack with
  | const value => rfl
  | var v => rfl
  | binary op lhs rhs ihl ihr =>
    rw [Expr.compile, Code.misses_append, ihl, Code.misses_append, ihr, run_compile, run_compile]
    rfl
  | negate operand ih =>
    rw [Expr.compile, Code.misses_append, ih, run_compile]
    rfl

theorem run_execute_compile (e : Expr) (state : Point α) (stack : List α) :
    (e.compile.execute state).run stack = (e.eval state, []) := by
  change pop (e.compile.run state []) = (e.eval state, [])
  rw [run_compile]
  rfl

/-- At every moment of its run the code of a tree has its own values above an untouched stack. -/
theorem run_prefix_of_compile {e : Expr} {done rest : Code} (h : e.compile = done ++ rest)
    (state : Point α) (stack : List α) :
    done.run state stack = done.run state [] ++ stack ∧ Code.misses state done [] = 0 := by
  have hm := misses_compile e state []
  rw [h, Code.misses_append] at hm
  have hd := (Nat.add_eq_zero_iff.mp hm).1
  exact ⟨(Code.run_append_stack hd stack).1, hd⟩

/-- Executing the code of a tree gives the value of the tree and an empty stack, whatever the stack
held before, and no value is ever missing. Run from any stack the code adds that one value; each
part of the run works on values of its own, above the stack. -/
theorem execute_compile (e : Expr) (state : Point α) (stack : List α) :
    (e.compile.execute state).run stack = (e.eval state, []) ∧
    e.compile.missesOfExecute state = 0 ∧
    e.compile.run state stack = e.eval state :: stack ∧
    ∀ done rest : Code, e.compile = done ++ rest →
      done.run state stack = done.run state [] ++ stack ∧ Code.misses state done [] = 0 := by
  refine ⟨run_execute_compile e state stack, ?_, run_compile e state stack, ?_⟩
  · rw [Code.missesOfExecute, misses_compile, run_compile, missing_cons]
  · intro done rest h
    exact run_prefix_of_compile h state stack

theorem execute_compile_difference :
    let e : Expr := .binary .sub (.var .x) (.const 2)
    let state : Point Float := ⟨3, 5⟩
    (e.compile.execute state).run [7] = (1, []) ∧
    e.compile = [.fetch .x, .load 2] ++ [.apply .sub] ∧
    Code.run [.fetch .x, .load 2] state [7] = [2, 3] ++ [7] ∧
    Code.misses state [.fetch .x, .load 2] [] = 0 := by
  intro e state
  obtain ⟨hexecute, -, -, hparts⟩ := execute_compile e state [7]
  have hvalue : e.eval state = 1 := by decide +kernel
  rw [hvalue] at hexecute
  exact ⟨hexecute, rfl, hparts [.fetch .x, .load 2] [.apply .sub] rfl⟩

end PhasePortrait
