import PhasePortrait.Formula.Code
import PhasePortrait.Proofs.TreeReading

/-! # What is built from a formula

Reading with any builder does what building from the expression tree does: a state of the reading
machine may be built from its trees before a step is taken or after it. So every builder accepts the
same formulas and rejects the others with the same error, and its parts are made in the order of the
postfix code.
-/
namespace PhasePortrait
variable {m : Type → Type} [Monad m] {V : Type}

/-- A computation follows a result that is known apart from it: it builds what is asked for from the
value, or it ends with the same error after some effects. -/
def Follows {β γ : Type} (x : ExceptT FormulaError m β) (build : γ → m β) : Except FormulaError γ → Prop
  | .ok v => x.run = Except.ok <$> build v
  | .error e => ∃ effects : m PUnit, x.run = (do effects; return .error e)

namespace Builder

def part (b : Builder m V) : Option (Expr × BinaryOp) → m (Option (V × BinaryOp))
  | none => pure none
  | some (lhs, op) => do
    let v ← lhs.build b
    return some (v, op)

/-- Builds what waits inside one group, in the order in which it was read. -/
def pending (b : Builder m V) (p : Pending Expr) : m (Pending V) := do
  let sum ← b.part p.sum
  let product ← b.part p.product
  return ⟨sum, product, p.negated⟩

/-- Builds what waits in the open groups, the outermost first. -/
def groups (b : Builder m V) : List (Pending Expr) → m (List (Pending V))
  | [] => pure []
  | p :: outer => do
    let built ← b.groups outer
    let q ← b.pending p
    return q :: built

/-- Builds a state of the reading machine from one that holds trees. -/
def reading (b : Builder m V) : Reading Expr → m (Reading V)
  | .operand outer p => do
    let built ← b.groups outer
    let q ← b.pending p
    return .operand built q
  | .operator outer sum value => do
    let built ← b.groups outer
    let s ← b.part sum
    let v ← value.build b
    return .operator built s v

variable [LawfulMonad m] (b : Builder m V)

theorem complete_part (pending : Option (Expr × BinaryOp)) (e : Expr) {β : Type} (k : V → m β) :
    (do let q ← b.part pending; let v ← e.build b; let w ← b.complete q v; k w) =
      (joined pending e).build b >>= k := by
  cases pending with
  | none => simp [part, complete, joined]
  | some p => simp [part, complete, joined, Expr.build]

theorem close_pending (p : Pending Expr) (e : Expr) {β : Type} (k : Option (V × BinaryOp) → V → m β) :
    (do let q ← b.pending p; let v ← e.build b; let w ← b.close q v; k q.sum w) =
      (do let s ← b.part p.sum; let w ← (p.closed e).build b; k s w) := by
  obtain ⟨sum, product, negated⟩ := p
  simp only [Pending.closed, ← complete_part, pending, close, bind_assoc, pure_bind]
  cases negated with
  | false => simp
  | true => simp [Expr.build]

theorem groups_congr {outer : List (Pending Expr)} {β : Type} {k k' : List (Pending V) → m β}
    (h : ∀ built : List (Pending V), outer.length = built.length → k built = k' built) :
    b.groups outer >>= k = b.groups outer >>= k' := by
  induction outer generalizing k k' with
  | nil => simpa [groups] using h [] rfl
  | cons p outer ih =>
    simp only [groups, bind_assoc, pure_bind]
    apply ih
    intro built hl
    congr 1
    funext q
    exact h (q :: built) (congrArg (· + 1) hl)

end Builder

/-! ## Errors -/

/-- Two states that differ only in the values they hold. -/
def Reading.Alike {W : Type} : Reading V → Reading W → Prop
  | .operand outer p, .operand built q => outer.length = built.length ∧ p.negated = q.negated
  | .operator outer _ _, .operator built _ _ => outer.length = built.length
  | _, _ => False

theorem Builder.reading_congr [LawfulMonad m] (b : Builder m V) {s : Reading Expr} {β : Type}
    {k k' : Reading V → m β} (h : ∀ r, s.Alike r → k r = k' r) :
    b.reading s >>= k = b.reading s >>= k' := by
  cases s with
  | operand outer p =>
    simp only [reading, pending, bind_assoc, pure_bind]
    apply b.groups_congr
    intro built hl
    have hk (s t : Option (V × BinaryOp)) := h (.operand built ⟨s, t, p.negated⟩) ⟨hl, rfl⟩
    simp only [hk]
  | operator outer sum value =>
    simp only [reading, bind_assoc, pure_bind]
    apply b.groups_congr
    intro built hl
    have hk (s : Option (V × BinaryOp)) (v : V) := h (.operator built s v) hl
    simp only [hk]

namespace Reading
variable (b : Builder m V) {l : Lexeme} {e : FormulaError}

theorem stepOperand_of_next_error {outer : List (Pending Expr)} {built : List (Pending V)} {p : Pending Expr}
    {q : Pending V} (hs : (operand outer p).Alike (operand built q)) (h : (operand outer p).next l = .error e) :
    (stepOperand b built q l).run = pure (.error e) := by
  obtain ⟨hl, hn⟩ := hs
  obtain ⟨position, token⟩ := l
  cases token with
  | symbol c =>
    rw [next_operand_symbol, hl, hn] at h
    simp only [stepOperand]
    by_cases hc : c = '-' ∧ q.negated = false
    · rw [if_pos hc] at h
      cases h
    · rw [if_neg hc] at h ⊢
      by_cases hp : c = '('
      · rw [if_pos hp] at h ⊢
        by_cases hd : built.length < maxNesting
        · rw [if_pos hd] at h
          cases h
        · rw [if_neg hd] at h ⊢
          cases h
          rfl
      · rw [if_neg hp] at h ⊢
        cases h
        rfl
  | name c rest =>
    rw [next_name] at h
    simp only [stepOperand]
    cases hv : Variable.ofName? (c :: rest) with
    | none => rw [hv] at h; cases h; rfl
    | some v => rw [hv] at h; cases h
  | number c whole fraction =>
    rw [next_number] at h
    cases h
  | unfinished c whole after => cases h; rfl

theorem stepOperator_of_next_error {outer : List (Pending Expr)} {built : List (Pending V)}
    {sum : Option (Expr × BinaryOp)} {t : Option (V × BinaryOp)} {value : Expr} {w : V}
    (hs : (operator outer sum value).Alike (operator built t w))
    (h : (operator outer sum value).next l = .error e) :
    (stepOperator b built t w l).run = pure (.error e) := by
  obtain ⟨position, token⟩ := l
  cases token with
  | symbol c =>
    rw [next_operator_symbol] at h
    simp only [stepOperator]
    cases ha : BinaryOp.additive? c with
    | some op => rw [ha] at h; cases h
    | none =>
      cases hm : BinaryOp.multiplicative? c with
      | some op => rw [ha, hm] at h; cases h
      | none =>
        rw [ha, hm] at h
        cases outer with
        | nil =>
          obtain rfl := List.length_eq_zero_iff.mp hs.symm
          cases h
          rfl
        | cons p outer =>
          obtain ⟨q, built, rfl⟩ := List.exists_cons_of_length_eq_add_one hs.symm
          by_cases hc : c = ')'
          · simp only [if_pos hc] at h
            cases h
          · simp only [if_neg hc] at h ⊢
            cases h
            rfl
  | name | number | unfinished =>
    rw [next_operator_other outer sum value (by simp)] at h
    cases h
    cases outer with
    | nil =>
      obtain rfl := List.length_eq_zero_iff.mp hs.symm
      rfl
    | cons p outer =>
      obtain ⟨q, built, rfl⟩ := List.exists_cons_of_length_eq_add_one hs.symm
      rfl

/-- Whether a token is an error, and which, does not depend on the values of a state. -/
theorem step_of_next_error {s : Reading Expr} {r : Reading V} (hs : s.Alike r) (h : s.next l = .error e) :
    (step b r l).run = pure (.error e) := by
  cases s with
  | operand outer p =>
    cases r with
    | operand built q => exact stepOperand_of_next_error b hs h
    | operator built t w => exact hs.elim
  | operator outer sum value =>
    cases r with
    | operand built q => exact hs.elim
    | operator built t w => exact stepOperator_of_next_error b hs h

end Reading

/-! ## Steps -/

namespace Builder
variable [LawfulMonad m] (b : Builder m V)

omit b in
theorem run_liftM_bind {β γ : Type} (x : m β) (f : β → ExceptT FormulaError m γ) :
    (do let v ← liftM x; f v : ExceptT FormulaError m γ).run = x >>= fun v => (f v).run :=
  ExceptT.run_bind_lift x f

theorem operandRead_reading (outer : List (Pending Expr)) (p : Pending Expr) (e : Expr) :
    (do let built ← b.groups outer; let q ← b.pending p; let v ← e.build b;
        (Reading.operandRead b built q v).run) =
      Except.ok <$> b.reading (.operator outer p.sum (p.closed e)) := by
  simp only [Reading.operandRead, run_liftM_bind, ExceptT.run_pure, reading, map_bind, map_pure]
  congr 1
  funext built
  exact b.close_pending p e fun s w => pure (Except.ok (Reading.operator built s w))

/-- A step taken after building gives what the step between the trees gives, built afterwards. -/
theorem reading_step {s t : Reading Expr} {token : Token} (h : Reading.Step s token t) (position : Nat) :
    (do let r ← b.reading s; (Reading.step b r ⟨position, token⟩).run) = Except.ok <$> b.reading t := by
  cases h with
  | sign => simp [reading, pending, Reading.step, Reading.stepOperand]
  | @opening outer p h =>
    simp only [reading, groups, bind_assoc, pure_bind, map_bind]
    apply b.groups_congr
    intro built hl
    have hb : built.length < maxNesting := hl ▸ h
    simp [Reading.step, Reading.stepOperand, hb, pending, part, Pending.start]
  | @number outer p c whole fraction =>
    rw [← operandRead_reading]
    simp only [reading, Reading.step, Reading.stepOperand, Expr.build, run_liftM_bind, bind_assoc, bind_pure_comp,
      bind_map_left]
  | @«variable» outer p c rest v h =>
    rw [← operandRead_reading]
    simp only [reading, Reading.step, Reading.stepOperand, h, Expr.build, run_liftM_bind, bind_assoc,
      bind_pure_comp, bind_map_left]
  | additive h =>
    simp only [reading, Reading.step, Reading.stepOperator, h, pending, part, run_liftM_bind, bind_assoc,
      pure_bind, map_bind, map_pure, ← complete_part, ExceptT.run_pure]
  | @multiplicative outer sum value c op h =>
    have hc := BinaryOp.additive?_of_multiplicative? h
    simp [reading, Reading.step, Reading.stepOperator, h, hc, pending, part]
  | closing =>
    have ha : BinaryOp.additive? ')' = none := rfl
    have hm : BinaryOp.multiplicative? ')' = none := rfl
    rw [← operandRead_reading]
    simp only [reading, groups, Reading.step, Reading.stepOperator, ha, hm, run_liftM_bind, bind_assoc,
      pure_bind, if_true, ← complete_part]

end Builder

/-! ## Runs -/

section
variable [LawfulMonad m] {β γ : Type} {build : γ → m β}

/-- Only the effects of `y` take place before an error that follows it. -/
theorem follows_error {δ : Type} {x : ExceptT FormulaError m β} {e : FormulaError} (y : m δ)
    (h : x.run = (do let _ ← y; return .error e)) : Follows x build (.error e) :=
  ⟨do let _ ← y; return ⟨⟩, by simp only [h, bind_assoc, pure_bind]⟩

theorem Follows.bind {β' γ' : Type} {build' : γ' → m β'} {x : ExceptT FormulaError m β}
    {r : Except FormulaError γ} {f : β → ExceptT FormulaError m β'} {g : γ → Except FormulaError γ'}
    (hx : Follows x build r) (hf : ∀ t, Follows (do let v ← liftM (build t); f v) build' (g t)) :
    Follows (x >>= f) build' (r >>= g) := by
  cases r with
  | error e =>
    obtain ⟨effects, he⟩ := hx
    exact ⟨effects, by simp only [ExceptT.run_bind, he, bind_assoc, pure_bind]⟩
  | ok t =>
    have hb : (x >>= f).run = (do let v ← liftM (build t); f v : ExceptT FormulaError m β').run := by
      rw [ExceptT.run_bind, hx, bind_map_left, Builder.run_liftM_bind]
    have ht := hf t
    change Follows (x >>= f) build' (g t)
    cases hg : g t with
    | error e =>
      rw [hg] at ht
      obtain ⟨effects, he⟩ := ht
      exact ⟨effects, hb.trans he⟩
    | ok u =>
      rw [hg] at ht
      exact hb.trans ht

end

namespace Builder
variable [LawfulMonad m] (b : Builder m V)

theorem reading_next (s : Reading Expr) (l : Lexeme) :
    Follows (do let r ← liftM (b.reading s); Reading.step b r l) b.reading (s.next l) := by
  cases h : s.next l with
  | error e =>
    apply follows_error (b.reading s)
    rw [run_liftM_bind]
    exact b.reading_congr fun r hr => Reading.step_of_next_error b hr h
  | ok t =>
    exact (run_liftM_bind ..).trans (b.reading_step (Reading.step_of_next h) l.position)

theorem reading_foldlM (ls : List Lexeme) (s : Reading Expr) :
    Follows (do let r ← liftM (b.reading s); ls.foldlM (Reading.step b) r) b.reading
      (ls.foldlM Reading.next s) := by
  induction ls generalizing s with
  | nil =>
    change _ = Except.ok <$> b.reading s
    simp only [List.foldlM_nil, run_liftM_bind, ExceptT.run_pure, map_eq_pure_bind]
  | cons l ls ih =>
    simp only [List.foldlM_cons, ← bind_assoc]
    exact (b.reading_next s l).bind ih

theorem reading_result (position : Nat) (s : Reading Expr) :
    Follows (do let r ← liftM (b.reading s); Reading.finish b position r) (Expr.build b)
      (s.result position) := by
  cases s with
  | operand outer p =>
    apply follows_error (b.reading (.operand outer p))
    rw [run_liftM_bind]
    apply b.reading_congr
    intro r hr
    cases r with
    | operand => rfl
    | operator => exact hr.elim
  | operator outer sum value =>
    cases outer with
    | nil =>
      rw [Reading.result_operator_nil]
      change _ = Except.ok <$> (joined sum value).build b
      simp only [run_liftM_bind, reading, groups, Reading.finish, ExceptT.run_liftM, bind_assoc, pure_bind,
        map_eq_pure_bind, ← complete_part]
    | cons q outer =>
      apply follows_error (b.reading (.operator (q :: outer) sum value))
      rw [run_liftM_bind]
      apply b.reading_congr
      intro r hr
      cases r with
      | operand => exact hr.elim
      | operator built t v =>
        obtain ⟨q, built, rfl⟩ := List.exists_cons_of_length_eq_add_one (Eq.symm hr)
        rfl

theorem follows_readTokens (position : Nat) (ls : List Lexeme) :
    Follows (readTokens b position ls) (Expr.build b) (readTree position ls) := by
  have h := b.reading_foldlM ls (.operand [] .start)
  have hs : b.reading (.operand [] .start) = pure (.operand [] .start) := by
    simp [reading, groups, pending, part, Pending.start]
  rw [hs, liftM_pure, pure_bind] at h
  exact h.bind (b.reading_result position)

/-- Reading with a builder builds from the tree of the formula, or ends with the same error. -/
theorem follows_parse (text : String) : Follows (readFormula b text) (Expr.build b) (parse text) := by
  rw [parse_eq, readFormula]
  split
  · exact b.follows_readTokens ..
  · exact follows_error (pure ⟨⟩ : m PUnit) (by rw [pure_bind]; rfl)

end Builder

/-! ## The value and the order of the parts -/

theorem build_value {α : Type} [Scalar α] (state : Point α) (e : Expr) :
    Id.run (e.build (Builder.value state)) = e.eval state := by
  induction e with
  | const | var => rfl
  | binary op lhs rhs ihl ihr =>
    simp only [Expr.build, Id.run_bind, ihl, ihr]
    rfl
  | negate operand ih =>
    simp only [Expr.build, Id.run_bind, ih]
    rfl

theorem evaluate_eq {α : Type} [Scalar α] (text : String) (state : Point α) :
    evaluate text state = (parse text).map (Expr.eval state) := by
  have h := (Builder.value state).follows_parse text
  rw [evaluate]
  cases hp : parse text with
  | error e =>
    rw [hp] at h
    obtain ⟨effects, he⟩ := h
    rw [he]
    rfl
  | ok e =>
    rw [hp] at h
    rw [h, Except.map, ← build_value]
    rfl

theorem evaluate_eq_error_iff {α : Type} [Scalar α] {text : String} {state : Point α} {e : FormulaError} :
    evaluate text state = .error e ↔ parse text = .error e := by
  rw [evaluate_eq]
  cases parse text <;> simp [Except.map]

namespace Builder

/-- Writes down the instruction for each part before the part is made. -/
def logged (b : Builder m V) : Builder (StateT Code m) V where
  const value := do
    modify (· ++ [.load value])
    b.const value
  var v := do
    modify (· ++ [.fetch v])
    b.var v
  binary op l r := do
    modify (· ++ [.apply op])
    b.binary op l r
  negate v := do
    modify (· ++ [.negate])
    b.negate v

theorem build_logged [LawfulMonad m] (b : Builder m V) (e : Expr) (code : Code) :
    (e.build b.logged).run code = (fun v => (v, code ++ e.compile)) <$> e.build b := by
  induction e generalizing code with
  | const value => simp [Expr.build, logged, Expr.compile]
  | var v => simp [Expr.build, logged, Expr.compile]
  | binary op lhs rhs ihl ihr =>
    simp only [Expr.build, StateT.run_bind, ihl, bind_map_left, ihr, map_bind, Expr.compile]
    simp [logged]
  | negate operand ih =>
    simp only [Expr.build, StateT.run_bind, ih, bind_map_left, map_bind, Expr.compile]
    simp [logged]

end Builder

/-- Every builder accepts the formulas that have a tree and gives what it builds from the tree, its
parts made in the order of the postfix code; any other formula ends with the error that the tree
ends with. So the value computed while a formula is read is the value of its tree, and whether it is
rejected, and how, depends neither on the state nor on the numbers. -/
theorem readFormula_eq_build [LawfulMonad m] (b : Builder m V) {α β : Type} [Scalar α] [Scalar β]
    (state : Point α) (other : Point β) (text : String) :
    (∀ e, parse text = .ok e →
      (readFormula b text).run = Except.ok <$> e.build b ∧
      (readFormula b.logged text).run.run [] = (fun v => (Except.ok v, e.compile)) <$> e.build b) ∧
    (∀ err, parse text = .error err →
      ∃ effects : m PUnit, (readFormula b text).run = (do effects; return .error err)) ∧
    evaluate text state = (parse text).map (Expr.eval state) ∧
    ∀ err, evaluate text state = .error err ↔ evaluate text other = .error err := by
  have h := b.follows_parse text
  have hl := b.logged.follows_parse text
  refine ⟨?_, ?_, evaluate_eq text state, ?_⟩
  · intro e he
    rw [he] at h hl
    refine ⟨h, ?_⟩
    rw [hl, StateT.run_map, b.build_logged, List.nil_append, Functor.map_map]
  · intro err he
    rw [he] at h
    exact h
  · intro err
    rw [evaluate_eq_error_iff, evaluate_eq_error_iff]

theorem readFormula_eq_build_product :
    parse "-x*(2+y)" = .ok (.binary .mul (.negate (.var .x)) (.binary .add (.const 2) (.var .y))) ∧
    (readFormula (Builder.value (⟨3, 5⟩ : Point Float)).logged "-x*(2+y)").run.run [] =
      (.ok (-21), [.fetch .x, .negate, .load 2, .fetch .y, .apply .add, .apply .mul]) := by
  have hs : Lexeme.scan 0 "-x*(2+y)".toList =
      [⟨0, .symbol '-'⟩, ⟨1, .name 'x' []⟩, ⟨2, .symbol '*'⟩, ⟨3, .symbol '('⟩, ⟨4, .number '2' [] []⟩,
        ⟨5, .symbol '+'⟩, ⟨6, .name 'y' []⟩, ⟨7, .symbol ')'⟩] := by decide +kernel
  have h2 : literalValue ['2'] [] = 2 := by decide +kernel
  have hv : (-3 * (2 + 5) : Float) = -21 := by decide +kernel
  have hp : parse "-x*(2+y)" =
      .ok (.binary .mul (.negate (.var .x)) (.binary .add (.const 2) (.var .y))) := by
    rw [parse_eq, hs, if_pos (by decide), ← h2]
    rfl
  have h := readFormula_eq_build (Builder.value (⟨3, 5⟩ : Point Float)) (⟨3, 5⟩ : Point Float)
    (⟨0, 0⟩ : Point Float32) "-x*(2+y)"
  refine ⟨hp, (h.1 _ hp).2.trans ?_⟩
  rw [← hv]
  rfl

end PhasePortrait
