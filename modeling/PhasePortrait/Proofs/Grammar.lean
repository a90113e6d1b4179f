import PhasePortrait.Formula.Reading

/-! # The grammar of formulas

Which texts are formulas, and of which trees, said without reading them from left to right:

    expression  =  term (('+' | '-') term)*
    term        =  factor (('*' | '/') factor)*
    factor      =  '-'? primary
    primary     =  '(' expression ')'  |  'x'  |  'y'  |  number
    number      =  digit+ ('.' digit+)?

White space may stand before every token and at the end of the text, but not inside a number.
-/
namespace PhasePortrait
open Text

def Blank (s : List Char) : Prop := ∀ c ∈ s, isBlank c = true

/-- ASCII digits, at least one. -/
def Digits (s : List Char) : Prop := s ≠ [] ∧ ∀ c ∈ s, c.isDigit = true

inductive Phrase
  | expression
  | term
  | factor
  | primary

/-- `Derives k n s e`: the text `s` is a phrase of kind `k` in which at most `n` parentheses are open
at once, and `e` is its tree. Sums and products associate to the left. -/
inductive Derives : Phrase → Nat → List Char → Expr → Prop
  | ofTerm {n s e} (h : Derives .term n s e) : Derives .expression n s e
  | sum {n s w t l r op} (hl : Derives .expression n s l) (hw : Blank w) (hop : op = .add ∨ op = .sub)
    (hr : Derives .term n t r) : Derives .expression n (s ++ w ++ op.symbol :: t) (.binary op l r)
  | ofFactor {n s e} (h : Derives .factor n s e) : Derives .term n s e
  | product {n s w t l r op} (hl : Derives .term n s l) (hw : Blank w) (hop : op = .mul ∨ op = .div)
    (hr : Derives .factor n t r) : Derives .term n (s ++ w ++ op.symbol :: t) (.binary op l r)
  | ofPrimary {n s e} (h : Derives .primary n s e) : Derives .factor n s e
  | negate {n w s e} (hw : Blank w) (h : Derives .primary n s e) :
    Derives .factor n (w ++ '-' :: s) (.negate e)
  | group {n w s w' e} (hw : Blank w) (h : Derives .expression n s e) (hw' : Blank w') :
    Derives .primary (n + 1) (w ++ '(' :: s ++ w' ++ [')']) e
  | variable {n w v} (hw : Blank w) : Derives .primary n (w ++ v.name) (.var v)
  | whole {n w ds} (hw : Blank w) (hd : Digits ds) :
    Derives .primary n (w ++ ds) (.const (literalValue ds []))
  | decimal {n w ds fs} (hw : Blank w) (hd : Digits ds) (hf : Digits fs) :
    Derives .primary n (w ++ ds ++ '.' :: fs) (.const (literalValue ds fs))

/-- The text is a formula with this tree, with at most `n` parentheses open at once. -/
def IsFormula (n : Nat) (s : List Char) (e : Expr) : Prop :=
  ∃ body trailing, Derives .expression n body e ∧ Blank trailing ∧ s = body ++ trailing

theorem blank_nil : Blank [] := by simp [Blank]

theorem Blank.append {s t : List Char} (hs : Blank s) (ht : Blank t) : Blank (s ++ t) := by
  intro c hc
  rcases List.mem_append.mp hc with hc | hc
  · exact hs c hc
  · exact ht c hc

theorem BinaryOp.additive?_eq_some_iff {c : Char} {op : BinaryOp} :
    additive? c = some op ↔ (op = .add ∨ op = .sub) ∧ c = op.symbol := by
  constructor
  · intro h
    unfold additive? at h
    split at h <;> cases h
    · exact ⟨.inl rfl, rfl⟩
    · exact ⟨.inr rfl, rfl⟩
  · rintro ⟨rfl | rfl, rfl⟩ <;> rfl

theorem BinaryOp.multiplicative?_eq_some_iff {c : Char} {op : BinaryOp} :
    multiplicative? c = some op ↔ (op = .mul ∨ op = .div) ∧ c = op.symbol := by
  constructor
  · intro h
    unfold multiplicative? at h
    split at h <;> cases h
    · exact ⟨.inl rfl, rfl⟩
    · exact ⟨.inr rfl, rfl⟩
  · rintro ⟨rfl | rfl, rfl⟩ <;> rfl

end PhasePortrait
