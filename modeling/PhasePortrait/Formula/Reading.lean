import PhasePortrait.Formula.Builder
import PhasePortrait.Formula.Error
import PhasePortrait.Formula.Token

/-! # Reading a formula

A formula is a sum of products of signed factors; a factor is a number, a variable or a formula in
parentheses. Sums and products associate to the left, and a minus sign in front of a factor belongs
to that factor alone. Tokens are read from left to right by a machine whose state holds the
operations still waiting for their right operand, one record for each group that is open.
-/
namespace PhasePortrait

/-- The longest formula, in bytes. -/
def maxFormulaBytes : Nat := 4096

/-- The deepest nesting of parentheses. -/
def maxNesting : Nat := 64

/-- What waits, inside one group, for the next operand: a sum and a product that lack their last
part, and a sign. -/
structure Pending (V : Type) where
  sum : Option (V × BinaryOp)
  product : Option (V × BinaryOp)
  negated : Bool

def Pending.start {V : Type} : Pending V := ⟨none, none, false⟩

/-- The state between two tokens: an operand must come next, or one has just been completed. The
groups that are open around it come innermost first. -/
inductive Reading (V : Type)
  | operand (groups : List (Pending V)) (pending : Pending V)
  | operator (groups : List (Pending V)) (sum : Option (V × BinaryOp)) (value : V)

def decimalNat (digits : List Char) : Nat :=
  digits.foldl (fun n c => 10 * n + (c.toNat - '0'.toNat)) 0

/-- The double nearest to a written number. -/
def literalValue (whole fraction : List Char) : Float :=
  Float.ofScientific (decimalNat (whole ++ fraction)) true fraction.length

namespace Builder
variable {m : Type → Type} [Monad m] {V : Type}

/-- A pending operation with its right operand, or the operand alone. -/
def complete (b : Builder m V) (pending : Option (V × BinaryOp)) (v : V) : m V :=
  match pending with
  | none => pure v
  | some (lhs, op) => b.binary op lhs v

/-- An operand with the sign and the product that wait for it. -/
def close (b : Builder m V) (p : Pending V) (v : V) : m V := do
  let signed ← if p.negated then b.negate v else pure v
  b.complete p.product signed

end Builder

namespace Reading
variable {m : Type → Type} [Monad m] {V : Type}

def fail (position : Nat) (expected : Expected) (found : Option Char) :
    ExceptT FormulaError m (Reading V) :=
  throw (.unexpected position expected found)

/-- The state after a completed operand. -/
def operandRead (b : Builder m V) (groups : List (Pending V)) (p : Pending V) (v : V) :
    ExceptT FormulaError m (Reading V) := do
  let value ← b.close p v
  return operator groups p.sum value

def stepOperand (b : Builder m V) (groups : List (Pending V)) (p : Pending V) (l : Lexeme) :
    ExceptT FormulaError m (Reading V) :=
  match l.token with
  | .symbol c =>
    if c = '-' ∧ p.negated = false then pure (operand groups { p with negated := true })
    else if c = '(' then
      if groups.length < maxNesting then pure (operand (p :: groups) .start)
      else fail l.position (.nesting maxNesting) (some c)
    else fail l.position .factor (some c)
  | .number c whole fraction => do
    let v ← b.const (literalValue (c :: whole) fraction)
    operandRead b groups p v
  | .unfinished _ whole next => fail (l.position + whole.length + 2) .digit next
  | .name c rest =>
    match Variable.ofName? (c :: rest) with
    | some v => do
      let value ← b.var v
      operandRead b groups p value
    | none => throw (.unknownName l.position (String.ofList (c :: rest)))

def stepOperator (b : Builder m V) (groups : List (Pending V)) (sum : Option (V × BinaryOp)) (value : V)
    (l : Lexeme) : ExceptT FormulaError m (Reading V) :=
  match l.token with
  | .symbol c =>
    match BinaryOp.additive? c, BinaryOp.multiplicative? c, groups with
    | some op, _, _ => do
      let total ← b.complete sum value
      return operand groups ⟨some (total, op), none, false⟩
    | none, some op, _ => pure (operand groups ⟨sum, some (value, op), false⟩)
    | none, none, p :: groups =>
      if c = ')' then do
        let total ← b.complete sum value
        operandRead b groups p total
      else fail l.position (.char ')') (some c)
    | none, none, [] => fail l.position .endOfInput (some c)
  | t => fail l.position (if groups.isEmpty then .endOfInput else .char ')') (some t.first)

def step (b : Builder m V) (s : Reading V) (l : Lexeme) : ExceptT FormulaError m (Reading V) :=
  match s with
  | operand groups p => stepOperand b groups p l
  | operator groups sum value => stepOperator b groups sum value l

def finish (b : Builder m V) (position : Nat) : Reading V → ExceptT FormulaError m V
  | operand _ _ => throw (.unexpected position .factor none)
  | operator [] sum value => b.complete sum value
  | operator (_ :: _) _ _ => throw (.unexpected position (.char ')') none)

end Reading

/-- The first character at or after byte `limit`, with its position. -/
def boundaryFrom (limit position : Nat) : List Char → Nat × Option Char
  | [] => (position, none)
  | c :: rest =>
    if limit ≤ position then (position, some c) else boundaryFrom limit (position + c.utf8Size) rest

section
variable {m : Type → Type} [Monad m] {V : Type}

@[specialize] def readTokens (b : Builder m V) (finish : Nat) (ls : List Lexeme) :
    ExceptT FormulaError m V := do
  let s ← ls.foldlM (Reading.step b) (Reading.operand [] .start)
  Reading.finish b finish s

/-- Reads a formula and builds its value. The length is checked before anything is read. -/
@[specialize] def readFormula (b : Builder m V) (text : String) : ExceptT FormulaError m V :=
  let cs := text.toList
  let bytes := byteLength cs
  if bytes ≤ maxFormulaBytes then readTokens b bytes (Lexeme.scan 0 cs)
  else
    let (position, found) := boundaryFrom maxFormulaBytes 0 cs
    throw (.unexpected position (.length maxFormulaBytes) found)

end

def parse (text : String) : Except FormulaError Expr := Id.run (readFormula Builder.tree text).run

/-- The value of a formula at a state, computed while it is read. -/
def evaluate {α : Type} [Scalar α] (text : String) (state : Point α) : Except FormulaError α :=
  Id.run (readFormula (Builder.value state) text).run

end PhasePortrait
