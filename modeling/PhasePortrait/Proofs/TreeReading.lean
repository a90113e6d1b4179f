import PhasePortrait.Formula.Reading

/-! # Reading into trees

The steps of the reading machine when it builds expression trees: which tokens it accepts in which
state, and what becomes of the state. Everything about accepted formulas is derived from this list.
-/
namespace PhasePortrait

instance decidableEqExcept {ε γ : Type} [DecidableEq ε] [DecidableEq γ] : DecidableEq (Except ε γ)
  | .error e, .error e' => decidable_of_iff (e = e') ⟨congrArg _, Except.error.inj⟩
  | .ok v, .ok w => decidable_of_iff (v = w) ⟨congrArg _, Except.ok.inj⟩
  | .error _, .ok _ | .ok _, .error _ => isFalse (by simp)

/-- A pending operation with its right operand, or the operand alone. -/
def joined : Option (Expr × BinaryOp) → Expr → Expr
  | none, e => e
  | some (lhs, op), e => .binary op lhs e

/-- An operand with the sign and the product that wait for it. -/
def Pending.closed (p : Pending Expr) (e : Expr) : Expr :=
  joined p.product (if p.negated then .negate e else e)

theorem complete_tree (pending : Option (Expr × BinaryOp)) (e : Expr) :
    Builder.tree.complete pending e = joined pending e := by
  cases pending <;> rfl

theorem close_tree (p : Pending Expr) (e : Expr) : Builder.tree.close p e = p.closed e := by
  obtain ⟨sum, product, negated⟩ := p
  cases product <;> cases negated <;> rfl

theorem BinaryOp.additive?_of_multiplicative? {c : Char} {op : BinaryOp} (h : multiplicative? c = some op) :
    additive? c = none := by
  unfold multiplicative? at h
  split at h
  · rfl
  · rfl
  · cases h

namespace Reading

/-- The step that builds trees. -/
def next (s : Reading Expr) (l : Lexeme) : Except FormulaError (Reading Expr) :=
  Id.run (step Builder.tree s l).run

def result (position : Nat) (s : Reading Expr) : Except FormulaError Expr :=
  Id.run (finish Builder.tree position s).run

/-- The accepted tokens of each state. -/
inductive Step : Reading Expr → Token → Reading Expr → Prop
  | sign {groups sum product} :
    Step (operand groups ⟨sum, product, false⟩) (.symbol '-') (operand groups ⟨sum, product, true⟩)
  | opening {groups p} (h : groups.length < maxNesting) :
    Step (operand groups p) (.symbol '(') (operand (p :: groups) .start)
  | number {groups p c whole fraction} :
    Step (operand groups p) (.number c whole fraction)
      (operator groups p.sum (p.closed (.const (literalValue (c :: whole) fraction))))
  | variable {groups p c rest v} (h : Variable.ofName? (c :: rest) = some v) :
    Step (operand groups p) (.name c rest) (operator groups p.sum (p.closed (.var v)))
  | additive {groups sum value c op} (h : BinaryOp.additive? c = some op) :
    Step (operator groups sum value) (.symbol c) (operand groups ⟨some (joined sum value, op), none, false⟩)
  | multiplicative {groups sum value c op} (h : BinaryOp.multiplicative? c = some op) :
    Step (operator groups sum value) (.symbol c) (operand groups ⟨sum, some (value, op), false⟩)
  | closing {groups p sum value} :
    Step (operator (p :: groups) sum value) (.symbol ')') (operator groups p.sum (p.closed (joined sum value)))

theorem next_number (groups : List (Pending Expr)) (p : Pending Expr) (position : Nat) (c : Char)
    (whole fraction : List Char) : next (operand groups p) ⟨position, .number c whole fraction⟩ =
      .ok (operator groups p.sum (p.closed (.const (literalValue (c :: whole) fraction)))) := by
  rw [← close_tree]
  rfl

theorem next_operand_symbol (groups : List (Pending Expr)) (p : Pending Expr) (position : Nat) (c : Char) :
    next (operand groups p) ⟨position, .symbol c⟩ =
      if c = '-' ∧ p.negated = false then .ok (operand groups { p with negated := true })
      else if c = '(' then
        if groups.length < maxNesting then .ok (operand (p :: groups) .start)
        else .error (.unexpected position (.nesting maxNesting) (some c))
      else .error (.unexpected position .factor (some c)) := by
  simp only [next, step, stepOperand]
  split
  · rfl
  · split
    · split <;> rfl
    · rfl

theorem next_name (groups : List (Pending Expr)) (p : Pending Expr) (position : Nat) (c : Char)
    (rest : List Char) : next (operand groups p) ⟨position, .name c rest⟩ =
      match Variable.ofName? (c :: rest) with
      | some v => .ok (operator groups p.sum (p.closed (.var v)))
      | none => .error (.unknownName position (String.ofList (c :: rest))) := by
  simp only [next, step, stepOperand]
  cases Variable.ofName? (c :: rest) with
  | none => rfl
  | some v =>
    simp only [← close_tree]
    rfl

theorem next_operator_symbol (groups : List (Pending Expr)) (sum : Option (Expr × BinaryOp)) (value : Expr)
    (position : Nat) (c : Char) :
    next (operator groups sum value) ⟨position, .symbol c⟩ =
      match BinaryOp.additive? c, BinaryOp.multiplicative? c, groups with
      | some op, _, _ => .ok (operand groups ⟨some (joined sum value, op), none, false⟩)
      | none, some op, _ => .ok (operand groups ⟨sum, some (value, op), false⟩)
      | none, none, p :: outer =>
        if c = ')' then .ok (operator outer p.sum (p.closed (joined sum value)))
        else .error (.unexpected position (.char ')') (some c))
      | none, none, [] => .error (.unexpected position .endOfInput (some c)) := by
  simp only [next, step, stepOperator]
  cases BinaryOp.additive? c with
  | some op => simp only [← complete_tree]; rfl
  | none =>
    cases BinaryOp.multiplicative? c with
    | some op => rfl
    | none =>
      cases groups with
      | nil => rfl
      | cons p outer =>
        simp only [← close_tree, ← complete_tree]
        split <;> rfl

theorem next_operator_other (groups : List (Pending Expr)) (sum : Option (Expr × BinaryOp)) (value : Expr)
    {l : Lexeme} (h : ∀ c, l.token ≠ .symbol c) :
    next (operator groups sum value) l =
      .error (.unexpected l.position (if groups.isEmpty then .endOfInput else .char ')') (some l.token.first)) := by
  obtain ⟨position, token⟩ := l
  cases token with
  | symbol c => exact (h c rfl).elim
  | name | number | unfinished => rfl

theorem next_of_step {s t : Reading Expr} {token : Token} (h : Step s token t) (position : Nat) :
    next s ⟨position, token⟩ = .ok t := by
  cases h with
  | sign => simp [next_operand_symbol]
  | opening h => simp [next_operand_symbol, h]
  | number => exact next_number ..
  | «variable» h => simp [next_name, h]
  | additive h => simp [next_operator_symbol, h]
  | multiplicative h => simp [next_operator_symbol, h, BinaryOp.additive?_of_multiplicative? h]
  | closing => simp [next_operator_symbol, BinaryOp.additive?, BinaryOp.multiplicative?]

theorem step_of_next_operand {groups : List (Pending Expr)} {p : Pending Expr} {l : Lexeme} {t : Reading Expr}
    (h : next (operand groups p) l = .ok t) : Step (operand groups p) l.token t := by
  obtain ⟨position, token⟩ := l
  cases token with
  | symbol c =>
    rw [next_operand_symbol] at h
    split at h
    · rename_i hc
      obtain ⟨sum, product, negated⟩ := p
      obtain ⟨rfl, rfl⟩ := hc
      cases h
      exact .sign
    · split at h
      · split at h
        · rename_i hc hlt
          subst hc
          cases h
          exact .opening hlt
        · cases h
      · cases h
  | name c rest =>
    rw [next_name] at h
    cases hv : Variable.ofName? (c :: rest) with
    | none => rw [hv] at h; cases h
    | some v => rw [hv] at h; cases h; exact .variable hv
  | number c whole fraction =>
    rw [next_number] at h
    cases h
    exact .number
  | unfinished c whole after => cases h

theorem step_of_next_operator {groups : List (Pending Expr)} {sum : Option (Expr × BinaryOp)} {value : Expr}
    {l : Lexeme} {t : Reading Expr} (h : next (operator groups sum value) l = .ok t) :
    Step (operator groups sum value) l.token t := by
  obtain ⟨position, token⟩ := l
  cases token with
  | symbol c =>
    rw [next_operator_symbol] at h
    split at h
    · rename_i ha
      cases h
      exact .additive ha
    · rename_i hm
      cases h
      exact .multiplicative hm
    · split at h
      · rename_i hc
        subst hc
        cases h
        exact .closing
      · cases h
    · cases h
  | name c rest => cases h
  | number c whole fraction => cases h
  | unfinished c whole after => cases h

theorem step_of_next {s t : Reading Expr} {l : Lexeme} (h : next s l = .ok t) : Step s l.token t := by
  cases s with
  | operand groups p => exact step_of_next_operand h
  | operator groups sum value => exact step_of_next_operator h

theorem result_operator_nil (position : Nat) (sum : Option (Expr × BinaryOp)) (value : Expr) :
    result position (operator [] sum value) = .ok (joined sum value) := by
  rw [← complete_tree]
  rfl

/-- The text may end where no group is open and an operand has been read. -/
theorem result_eq_ok_iff {position : Nat} {s : Reading Expr} {e : Expr} :
    result position s = .ok e ↔ ∃ sum value, s = operator [] sum value ∧ joined sum value = e := by
  constructor
  · intro h
    cases s with
    | operand groups p => cases h
    | operator groups sum value =>
      cases groups with
      | nil =>
        rw [result_operator_nil] at h
        exact ⟨sum, value, rfl, Except.ok.inj h⟩
      | cons p outer => cases h
  · rintro ⟨sum, value, rfl, rfl⟩
    exact result_operator_nil ..

end Reading

def readTree (position : Nat) (ls : List Lexeme) : Except FormulaError Expr := do
  let s ← ls.foldlM Reading.next (.operand [] .start)
  s.result position

theorem run_foldlM_step (ls : List Lexeme) (s : Reading Expr) :
    Id.run (ls.foldlM (Reading.step Builder.tree) s).run = ls.foldlM Reading.next s := by
  induction ls generalizing s with
  | nil => rfl
  | cons l ls ih =>
    rw [List.foldlM_cons, List.foldlM_cons, ExceptT.run_bind, Id.run_bind, ← Reading.next]
    cases s.next l with
    | error e => rfl
    | ok t => exact ih t

theorem readTokens_tree (position : Nat) (ls : List Lexeme) :
    Id.run (readTokens Builder.tree position ls).run = readTree position ls := by
  rw [readTokens, readTree, ExceptT.run_bind, Id.run_bind, run_foldlM_step]
  cases ls.foldlM Reading.next (.operand [] .start) with
  | error e => rfl
  | ok s => rfl

theorem parse_eq (text : String) :
    parse text =
      if byteLength text.toList ≤ maxFormulaBytes then
        readTree (byteLength text.toList) (Lexeme.scan 0 text.toList)
      else
        .error (.unexpected (boundaryFrom maxFormulaBytes 0 text.toList).1 (.length maxFormulaBytes)
          (boundaryFrom maxFormulaBytes 0 text.toList).2) := by
  rw [parse, readFormula]
  split
  · exact readTokens_tree ..
  · rfl

end PhasePortrait
