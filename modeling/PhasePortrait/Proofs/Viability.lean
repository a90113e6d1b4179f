import PhasePortrait.Proofs.Acceptance

/-! # Where a formula goes wrong

An error stands where the text stops being the beginning of a formula: what comes before can be completed,
and no formula goes on with what was found. Whether a token ends is settled by the one character after it,
so what has been read before that character stays the same however the text goes on from there.
-/
namespace PhasePortrait
open Reading Text

/-- The text is the beginning of a formula with at most `n` parentheses open at once. -/
def Viable (n : Nat) (s : List Char) : Prop := ∃ rest e, IsFormula n (s ++ rest) e

theorem Viable.of_append {n : Nat} {s t : List Char} (h : Viable n (s ++ t)) : Viable n s := by
  obtain ⟨rest, e, hf⟩ := h
  exact ⟨t ++ rest, e, by rwa [← List.append_assoc]⟩

/-! ## What can be completed -/

/-- After an operand the open groups may be closed. -/
theorem viable_of_operator {groups : List (Pending Expr)} {sum : Option (Expr × BinaryOp)} {value : Expr}
    {t w : List Char} (h : ReadText (operator groups sum value) t) (hw : Blank w) : Viable maxNesting (t ++ w) := by
  induction groups generalizing sum value t w with
  | nil =>
    cases h with
    | operator hg hs hv =>
      cases hg
      exact ⟨[], joined sum value, _, w, hs.joined hv, hw, by simp⟩
  | cons p outer ih => exact (ih (h.step .closing hw trivial) blank_nil).of_append.of_append

/-- Where an operand is missing a variable may stand. -/
theorem ReadText.viable {s : Reading Expr} {t w : List Char} (h : ReadText s t) (hw : Blank w) :
    Viable maxNesting (t ++ w) := by
  cases s with
  | operand groups p =>
    have hx : Step (Reading.operand groups p) (.name 'x' []) _ := .variable (v := .x) rfl
    exact (viable_of_operator (h.step hx hw trivial) blank_nil).of_append.of_append
  | operator groups sum value => exact viable_of_operator h hw

/-! ## What has been read -/

theorem Reading.Step.ne_unfinished {s s' : Reading Expr} {token : Token} (h : Step s token s') (c : Char)
    (whole : List Char) (found : Option Char) : token ≠ .unfinished c whole found := by
  rintro rfl
  cases h

/-- A token that has been read stays as it is where the text after it begins with the same character. -/
theorem Token.Cut.of_head {c : Char} {rest after u : List Char} {token : Token} (h : Cut c rest token after)
    (hf : ∀ d whole found, token ≠ .unfinished d whole found) (hu : ∀ d ∈ u.head?, d ∈ after.head?) :
    ∃ cs, token.text = c :: cs ∧ Cut c (cs ++ u) token u := by
  cases h with
  | symbol hd hn => exact ⟨[], rfl, .symbol hd hn⟩
  | @name cs _ hd hn hs hr => exact ⟨cs, rfl, .name hd hn hs fun d h => hr d (hu d h)⟩
  | @whole ds _ hd hr hp => exact ⟨ds, rfl, .whole hd (fun d h => hr d (hu d h)) fun d h => hp d (hu d h)⟩
  | @decimal ds f fs _ hd hfs hr =>
    have h := Cut.decimal hd hfs fun d h => hr d (hu d h)
    exact ⟨ds ++ '.' :: f :: fs, rfl, by simpa using h⟩
  | unfinished => exact (hf _ _ _ rfl).elim

/-- The token at the beginning of a text, if it is accepted, is read as well from a text that goes on
differently after the first character behind it. -/
theorem Reads.of_next {s s' : Reading Expr} {position : Nat} {c : Char} {rest u : List Char}
    (hc : isBlank c = false) (h : next s ⟨position, (Token.read c rest).1⟩ = .ok s')
    (hu : ∀ d ∈ u.head?, d ∈ (Token.read c rest).2.head?) : Reads u s (Token.read c rest).1.text s' := by
  have hstep := step_of_next h
  obtain ⟨cs, htext, hcut⟩ := (Token.cut_read c rest).of_head hstep.ne_unfinished hu
  rw [htext]
  exact Reads.token blank_nil hc hcut.read_eq hstep

theorem Reads.blank {w : List Char} (hw : Blank w) (rest : List Char) (s : Reading Expr) : Reads rest s w s := by
  intro position
  rw [scan_blank hw]

/-- Where a run over a text fails, it has read what is before some token and cannot go on with it. What it
has read does not depend on how the text goes on from the first character of this token. -/
theorem exists_of_foldlM_error {s : Reading Expr} {err : FormulaError} (position : Nat) (cs : List Char)
    (hrun : (Lexeme.scan position cs).foldlM next s = .error err) :
    ∃ t c rest s', cs = t ++ c :: rest ∧ isBlank c = false ∧ (∀ u, (∀ d ∈ u.head?, d = c) → Reads u s t s') ∧
      next s' ⟨position + byteLength t, (Token.read c rest).1⟩ = .error err := by
  fun_induction Lexeme.scan position cs generalizing s with
  | case1 position => cases hrun
  | case2 position c rest hc ih =>
    obtain ⟨t, d, rest, s', rfl, hd, hr, he⟩ := ih hrun
    have hb : Blank [c] := by simpa [Blank] using hc
    refine ⟨c :: t, d, rest, s', rfl, hd, ?_, by rwa [byteLength, ← Nat.add_assoc]⟩
    intro u hu
    exact (Reads.blank hb (t ++ u) s).trans (hr u hu)
  | case3 position c rest hc token =>
    rename_i ih
    rw [Bool.not_eq_true] at hc
    rw [List.foldlM_cons] at hrun
    cases hn : s.next ⟨position, token.1⟩ with
    | error e =>
      rw [hn] at hrun
      cases hrun
      exact ⟨[], c, rest, s, rfl, hc, fun u _ => Reads.refl u s, hn⟩
    | ok s₁ =>
      rw [hn] at hrun
      obtain ⟨t, d, after, s', ht, hd, hr, he⟩ := ih hrun
      refine ⟨token.1.text ++ t, d, after, s', ?_, hd, ?_, ?_⟩
      · rw [List.append_assoc, ← ht]
        exact (Token.read_text c rest).symm
      · intro u hu
        refine Reads.trans (Reads.of_next hc hn ?_) (hr u hu)
        -- the character behind the token stays, be it in `t` or the first one of `u`
        rw [ht]
        cases t with
        | nil =>
          intro e he
          rw [hu e he]
          exact rfl
        | cons => exact fun e he => he
      · rwa [byteLength_append, ← Nat.add_assoc]

/-! ## What cannot be read on -/

/-- In state `s` no token that begins with the text `c :: cs` is accepted. -/
def Blocks (s : Reading Expr) (c : Char) (cs : List Char) : Prop :=
  ∀ position rest, ∃ err, next s ⟨position, (Token.read c (cs ++ rest)).1⟩ = .error err

theorem not_viable_of_blocks {s : Reading Expr} {t cs : List Char} {c : Char} (hc : isBlank c = false)
    (hr : ∀ u, (∀ d ∈ u.head?, d = c) → Reads u (operand [] .start) t s) (hb : Blocks s c cs) :
    ¬Viable maxNesting (t ++ c :: cs) := by
  rintro ⟨rest, e, hf⟩
  have hread := hf.readTree_eq 0
  have hcut := (Token.cut_read c (cs ++ rest)).read_eq
  rw [readTree, List.append_assoc, List.cons_append, hr (c :: (cs ++ rest)) (by simp) 0,
    scan_read hc hcut, List.foldlM_cons] at hread
  obtain ⟨err, he⟩ := hb (0 + byteLength t) rest
  rw [he] at hread
  cases hread

/-- Which token is refused does not depend on where it stands. -/
theorem exists_next_error {s : Reading Expr} {l : Lexeme} {err : FormulaError} (h : next s l = .error err)
    (position : Nat) : ∃ err', next s ⟨position, l.token⟩ = .error err' := by
  cases hn : next s ⟨position, l.token⟩ with
  | error err' => exact ⟨err', rfl⟩
  | ok t =>
    have hok := next_of_step (step_of_next hn) l.position
    rw [h] at hok
    cases hok

theorem next_symbol_error {s : Reading Expr} {position : Nat} {c : Char} {err : FormulaError}
    (h : next s ⟨position, .symbol c⟩ = .error err) : ∃ expected, err = .unexpected position expected (some c) := by
  cases s with
  | operand groups p =>
    rw [next_operand_symbol] at h
    split at h
    · cases h
    · split at h
      · split at h
        · cases h
        · cases h
          exact ⟨_, rfl⟩
      · cases h
        exact ⟨_, rfl⟩
  | operator groups sum value =>
    rw [next_operator_symbol] at h
    split at h
    · cases h
    · cases h
    · split at h
      · cases h
      · cases h
        exact ⟨_, rfl⟩
    · cases h
      exact ⟨_, rfl⟩

/-- What an error in front of the character `c` and the text `rest` says, and why no other text helps. -/
inductive Stuck (s : Reading Expr) (position : Nat) (c : Char) (rest : List Char) : FormulaError → Prop
  | unexpected {expected} (hb : Blocks s c []) : Stuck s position c rest (.unexpected position expected (some c))
  | unknownName {cs} (hcs : cs <+: rest) (hb : Blocks s c cs) :
    Stuck s position c rest (.unknownName position (String.ofList (c :: cs)))
  | unfinished {groups p whole after} (hs : s = operand groups p) (hd : Digits (c :: whole))
    (hrest : rest = whole ++ '.' :: after) (hb : ∀ d ∈ after.head?, Blocks s c (whole ++ ['.', d])) :
    Stuck s position c rest (.unexpected (position + whole.length + 2) .digit after.head?)

theorem Token.Cut.of_symbol {c d : Char} {rest after : List Char} (h : Cut c rest (.symbol d) after) :
    c.isDigit = false ∧ isNameStart c = false := by
  cases h with
  | symbol hd hn => exact ⟨hd, hn⟩

/-- Only symbols are accepted after an operand. -/
theorem blocks_operator {groups : List (Pending Expr)} {sum : Option (Expr × BinaryOp)} {value : Expr} {c : Char}
    (hc : ¬(c.isDigit = false ∧ isNameStart c = false)) : Blocks (operator groups sum value) c [] := by
  intro position rest
  refine ⟨_, next_operator_other groups sum value ?_⟩
  intro d hd
  have h := Token.cut_read c ([] ++ rest)
  change (Token.read c ([] ++ rest)).1 = .symbol d at hd
  rw [hd] at h
  exact hc h.of_symbol

theorem Variable.ofName?_of_append {c : Char} {cs more : List Char} {v : Variable}
    (h : ofName? (c :: (cs ++ more)) = some v) : ofName? (c :: cs) = some v := by
  have hname := ofName?_eq_some_iff.mp h
  have hnil : cs ++ more = [] := by cases v <;> exact (List.cons.inj hname).2
  obtain ⟨rfl, rfl⟩ := List.append_eq_nil_iff.mp hnil
  exact h

/-- An unknown name stays unknown however it goes on. -/
theorem blocks_unknown {groups : List (Pending Expr)} {p : Pending Expr} {c : Char} {cs : List Char}
    (hd : c.isDigit = false) (hn : isNameStart c = true) (hs : ∀ d ∈ cs, isNamePart d = true)
    (hv : Variable.ofName? (c :: cs) = none) : Blocks (operand groups p) c cs := by
  intro position rest
  have hdrop : ∀ d ∈ (rest.dropWhile isNamePart).head?, isNamePart d = false := head?_dropWhile
  have hparts : ∀ d ∈ cs ++ rest.takeWhile isNamePart, isNamePart d = true := by
    intro d hd
    rcases List.mem_append.mp hd with hd | hd
    · exact hs d hd
    · exact forall_mem_takeWhile d hd
  have hread := Token.read_name hd hn hparts hdrop
  rw [List.append_assoc, List.takeWhile_append_dropWhile] at hread
  have hlonger : Variable.ofName? (c :: (cs ++ rest.takeWhile isNamePart)) = none := by
    cases hl : Variable.ofName? (c :: (cs ++ rest.takeWhile isNamePart)) with
    | none => rfl
    | some v =>
      rw [Variable.ofName?_of_append hl] at hv
      cases hv
  rw [hread, next_name, hlonger]
  exact ⟨_, rfl⟩

/-- A number without the digits of its fraction stays without them. -/
theorem blocks_unfinished {groups : List (Pending Expr)} {p : Pending Expr} {c d : Char} {whole : List Char}
    (hw : ∀ e ∈ c :: whole, e.isDigit = true) (hd : d.isDigit = false) :
    Blocks (operand groups p) c (whole ++ ['.', d]) := by
  intro position rest
  have hnext : ∀ e ∈ (d :: rest).head?, e.isDigit = false := by
    intro e he
    cases he
    exact hd
  have hread := Token.read_unfinished hw hnext
  rw [List.append_assoc]
  change ∃ err, next (operand groups p) ⟨position, (Token.read c (whole ++ '.' :: d :: rest)).1⟩ = .error err
  rw [hread]
  exact ⟨_, rfl⟩

section
variable {groups : List (Pending Expr)} {position : Nat} {c : Char} {rest after : List Char} {token : Token}
  {err : FormulaError} (hc : ¬(c.isDigit = false ∧ isNameStart c = false)) (hcut : Token.Cut c rest token after)
include hc hcut

theorem stuck_of_operand_error {p : Pending Expr} (h : next (operand groups p) ⟨position, token⟩ = .error err) :
    Stuck (operand groups p) position c rest err := by
  cases hcut with
  | symbol hd hn => exact absurd ⟨hd, hn⟩ hc
  | @name cs _ hd hn hs hr =>
    rw [next_name] at h
    cases hv : Variable.ofName? (c :: cs) with
    | some v => rw [hv] at h; cases h
    | none =>
      rw [hv] at h
      cases h
      exact .unknownName (List.prefix_append cs after) (blocks_unknown hd hn hs hv)
  | whole | decimal => rw [next_number] at h; cases h
  | unfinished hd hr =>
    cases h
    exact .unfinished rfl ⟨List.cons_ne_nil c _, hd⟩ rfl fun d hd' => blocks_unfinished hd (hr d hd')

theorem stuck_of_operator_error {sum : Option (Expr × BinaryOp)} {value : Expr}
    (h : next (operator groups sum value) ⟨position, token⟩ = .error err) :
    Stuck (operator groups sum value) position c rest err := by
  have hne : ∀ d, token ≠ .symbol d := by
    rintro d rfl
    exact hc hcut.of_symbol
  have hfirst : token.first = c := by cases hcut <;> rfl
  rw [next_operator_other groups sum value hne, hfirst] at h
  cases h
  exact .unexpected (blocks_operator hc)

end

theorem stuck_of_next_error {s : Reading Expr} {position : Nat} {c : Char} {rest : List Char} {err : FormulaError}
    (h : next s ⟨position, (Token.read c rest).1⟩ = .error err) : Stuck s position c rest err := by
  by_cases hc : c.isDigit = false ∧ isNameStart c = false
  · rw [Token.read_symbol hc.1 hc.2] at h
    obtain ⟨expected, rfl⟩ := next_symbol_error h
    refine .unexpected ?_
    intro position' rest'
    rw [Token.read_symbol hc.1 hc.2]
    exact exists_next_error h position'
  · cases s with
    | operand => exact stuck_of_operand_error hc (Token.cut_read c rest) h
    | operator => exact stuck_of_operator_error hc (Token.cut_read c rest) h

/-! ## Errors -/

theorem byteLength_of_digits {ds : List Char} (h : ∀ d ∈ ds, d.isDigit = true) : byteLength ds = ds.length := by
  induction ds with
  | nil => rfl
  | cons d ds ih =>
    obtain ⟨hd, hds⟩ := List.forall_mem_cons.mp h
    have hsize : d.utf8Size = 1 := by
      simp only [Char.isDigit, Bool.and_eq_true, decide_eq_true_eq, UInt32.le_iff_toNat_le] at hd
      have hle : d.val ≤ 127 := UInt32.le_iff_toNat_le.mpr (Nat.le_trans hd.2 (by decide))
      exact if_pos hle
    rw [byteLength, ih hds, hsize, List.length_cons, Nat.add_comm]

/-- A position cuts a text in one way. -/
theorem eq_of_byteLength_eq {s t s' t' : List Char} (h : s ++ t = s' ++ t') (hb : byteLength s = byteLength s') :
    s = s' ∧ t = t' := by
  induction s generalizing s' with
  | nil =>
    cases s' with
    | nil => exact ⟨rfl, h⟩
    | cons d s' =>
      have hpos := d.utf8Size_pos
      rw [byteLength, byteLength] at hb
      omega
  | cons c s ih =>
    cases s' with
    | nil =>
      have hpos := c.utf8Size_pos
      rw [byteLength, byteLength] at hb
      omega
    | cons d s' =>
      obtain ⟨rfl, hs⟩ := List.cons.inj h
      obtain ⟨rfl, rfl⟩ := ih hs (Nat.add_left_cancel hb)
      exact ⟨rfl, rfl⟩

theorem result_error {position : Nat} {s : Reading Expr} {err : FormulaError} (h : result position s = .error err) :
    ∃ expected, err = .unexpected position expected none := by
  cases s with
  | operand groups p =>
    cases h
    exact ⟨_, rfl⟩
  | operator groups sum value =>
    cases groups with
    | nil =>
      rw [result_operator_nil] at h
      cases h
    | cons p outer =>
      cases h
      exact ⟨_, rfl⟩

/-- What a run over a text leaves is the state after a text that can be completed. -/
theorem exists_readText {t : List Char} {s : Reading Expr}
    (hrun : (Lexeme.scan 0 t).foldlM next (operand [] .start) = .ok s) :
    ∃ body trailing, ReadText s body ∧ Blank trailing ∧ t = body ++ trailing := by
  have hstart : ReadText (operand [] .start) [] := .operand .nil (pendingText_start maxNesting)
  simpa using hstart.run blank_nil 0 t hrun

theorem Reads.exists_readText {t : List Char} {s : Reading Expr} (h : Reads [] (operand [] .start) t s) :
    ∃ body trailing, ReadText s body ∧ Blank trailing ∧ t = body ++ trailing := by
  apply PhasePortrait.exists_readText
  have hread := h 0
  rw [List.append_nil] at hread
  rw [hread, Lexeme.scan, List.foldlM_nil]
  rfl

/-- How what follows the text `before` makes an end of it: neither the character nor the name that is found
there can go on with it, or the text ends there and is no formula. -/
def FormulaError.Refutes (n : Nat) (before after : List Char) : FormulaError → Prop
  | unexpected _ _ (some c) => after.head? = some c ∧ ¬Viable n (before ++ [c])
  | unexpected _ _ none => after = [] ∧ ∀ e, ¬IsFormula n before e
  | unknownName _ name => name.toList <+: after ∧ ¬Viable n (before ++ name.toList)

/-- The error cuts the text in two where it stops being the beginning of a formula. -/
def FormulaError.Locates (n : Nat) (text : List Char) (err : FormulaError) : Prop :=
  ∃ before after, text = before ++ after ∧ byteLength before = err.position ∧ Viable n before ∧
    err.Refutes n before after

theorem locates_of_stuck {t rest : List Char} {c : Char} {s : Reading Expr} {err : FormulaError}
    (hc : isBlank c = false) (hr : ∀ u, (∀ d ∈ u.head?, d = c) → Reads u (operand [] .start) t s)
    (hstuck : Stuck s (byteLength t) c rest err) (hno : ∀ e, ¬IsFormula maxNesting (t ++ c :: rest) e) :
    err.Locates maxNesting (t ++ c :: rest) := by
  obtain ⟨body, trailing, hbody, htrailing, rfl⟩ := (hr [] (by simp)).exists_readText
  cases hstuck with
  | unexpected hblocks =>
    exact ⟨_, _, rfl, rfl, hbody.viable htrailing, rfl, not_viable_of_blocks hc hr hblocks⟩
  | unknownName hcs hblocks =>
    refine ⟨_, _, rfl, rfl, hbody.viable htrailing, ?_⟩
    rw [FormulaError.Refutes, String.toList_ofList]
    exact ⟨(List.prefix_cons_inj c).mpr hcs, not_viable_of_blocks hc hr hblocks⟩
  | @unfinished groups p whole after hs hd hrest hblocks =>
    subst hs hrest
    refine ⟨body ++ trailing ++ (c :: whole ++ ['.']), after, by simp, ?_, ?_, ?_⟩
    · rw [byteLength_append, byteLength_append (c :: whole), byteLength_of_digits hd.2]
      rfl
    · -- one more digit makes the number complete
      have hstep : Step (Reading.operand groups p) (.number c whole ['0']) _ := .number
      have hread := (hbody.step hstep htrailing ⟨hd, by simp⟩).viable blank_nil
      apply Viable.of_append
      simpa [Token.text] using hread
    · cases after with
      | nil => exact ⟨rfl, by simpa using hno⟩
      | cons d after => exact ⟨rfl, by simpa using not_viable_of_blocks hc hr (hblocks d rfl)⟩

theorem locates_of_readTree_error {cs : List Char} {err : FormulaError}
    (h : readTree (byteLength cs) (Lexeme.scan 0 cs) = .error err) : err.Locates maxNesting cs := by
  have hno : ∀ e, ¬IsFormula maxNesting cs e := by
    intro e hf
    cases h.symm.trans (hf.readTree_eq (byteLength cs))
  rw [readTree] at h
  cases hrun : (Lexeme.scan 0 cs).foldlM next (operand [] .start) with
  | ok s =>
    rw [hrun] at h
    obtain ⟨expected, rfl⟩ := result_error h
    obtain ⟨body, trailing, hbody, htrailing, rfl⟩ := exists_readText hrun
    exact ⟨_, [], (List.append_nil _).symm, rfl, hbody.viable htrailing, rfl, hno⟩
  | error err' =>
    rw [hrun] at h
    cases h
    obtain ⟨t, c, rest, s, rfl, hc, hr, he⟩ := exists_of_foldlM_error 0 cs hrun
    rw [Nat.zero_add] at he
    exact locates_of_stuck hc hr (stuck_of_next_error he) hno

/-- The error of a text that is not too long stands where the text stops being the beginning of a formula:
what comes before its position can be completed, but no formula begins with that and the character or the
name found there, and where the end was found the text is no formula. -/
theorem parse_error_locates {text : String} {err : FormulaError} (hb : text.utf8ByteSize ≤ 4096)
    (h : parse text = .error err) : err.Locates 64 text.toList := by
  have hlimit : text.utf8ByteSize ≤ maxFormulaBytes := hb
  rw [parse_eq, byteLength_toList, if_pos hlimit, ← byteLength_toList] at h
  exact locates_of_readTree_error h

/-- A fraction needs a digit, and the text is good up to its point. -/
theorem parse_error_locates_fraction :
    "2*(x-1.)".utf8ByteSize ≤ 4096 ∧ parse "2*(x-1.)" = .error (.unexpected 7 .digit (some ')')) ∧
    Viable 64 "2*(x-1.".toList ∧ ¬Viable 64 "2*(x-1.)".toList := by
  have hb : "2*(x-1.)".utf8ByteSize ≤ 4096 := by decide
  have h : parse "2*(x-1.)" = .error (.unexpected 7 .digit (some ')')) := by decide +kernel
  obtain ⟨before, after, ht, hlength, hviable, -, hstops⟩ := parse_error_locates hb h
  have hcut : "2*(x-1.".toList ++ [')'] = before ++ after := by
    rw [← ht]
    decide
  obtain ⟨rfl, rfl⟩ := eq_of_byteLength_eq hcut (by rw [hlength]; decide)
  exact ⟨hb, h, hviable, hstops⟩

end PhasePortrait
