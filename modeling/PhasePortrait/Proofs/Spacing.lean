import PhasePortrait.Proofs.Reports

/-! # White space between tokens

Where no name and no number goes on across a place of a text, the tokens before it and those after it are read
apart. White space that is put there changes no token and moves those after it; what is read is the same tree,
and an error moves with what it is about.
-/
namespace PhasePortrait
open Reading Text

/-- A character that a name or a number can go on with. -/
def InWord (c : Char) : Prop := isNamePart c = true ∨ c = '.'

/-- No name and no number goes on from the first text into the second, and the first does not end with a
point. -/
def Seam (s t : List Char) : Prop := ∀ c ∈ s.getLast?, c ≠ '.' ∧ ∀ d ∈ t.head?, ¬(InWord c ∧ InWord d)

section
variable {s t : List Char}

theorem Seam.of_append {u : List Char} (h : Seam (u ++ s) t) : Seam s t := by
  intro c hc
  apply h c
  rw [List.getLast?_append, hc]
  rfl

/-- Behind a name or a number the second text begins with something else. -/
theorem Seam.stops (h : Seam s t) (hne : s ≠ []) (hs : ∀ c ∈ s, isNamePart c = true) : Stops t := by
  intro d hd
  have hc := hs _ (List.getLast_mem hne)
  have hword := (h _ (List.getLast_mem_getLast? hne)).2 d hd
  refine ⟨?_, ?_⟩
  · rw [Bool.eq_false_iff]
    exact fun hn => hword ⟨.inl hc, .inl hn⟩
  · rintro rfl
    exact hword ⟨.inl hc, .inr rfl⟩

/-- White space may always follow a symbol of the grammar. -/
theorem seam_symbol {c : Char} (hc : c ∈ symbols) (u t : List Char) : Seam (u ++ [c]) t := by
  obtain ⟨-, hn, hp⟩ := symbol_classes c hc
  intro d hd
  rw [List.getLast?_concat] at hd
  cases hd
  refine ⟨hp, ?_⟩
  rintro e - ⟨hword, -⟩
  rcases hword with h | h
  · rw [hn] at h
    cases h
  · exact hp h

theorem Seam.of_blank {w : List Char} (h : Seam s t) (hw : Blank w) : Seam s (w ++ t) := by
  intro c hc
  refine ⟨(h c hc).1, ?_⟩
  cases w with
  | nil => exact (h c hc).2
  | cons e w =>
    rintro d hd ⟨-, hn | rfl⟩
    · cases hd
      rw [isNamePart_eq_false_of_isBlank (hw e List.mem_cons_self)] at hn
      cases hn
    · cases hd
      exact absurd (hw '.' List.mem_cons_self) (by decide)

end

/-! ## Tokens on both sides -/

/-- Behind a token stands what it leaves of the first text, or the second text where it leaves nothing. -/
theorem forall_head?_append {p : Char → Prop} {after t : List Char} (h : ∀ d ∈ after.head?, p d)
    (ht : after = [] → ∀ d ∈ t.head?, p d) : ∀ d ∈ (after ++ t).head?, p d := by
  cases after with
  | nil => exact ht rfl
  | cons => exact h

/-- A token of the first text is read in the same way where the second one follows. -/
theorem Token.Cut.append {c : Char} {rest after t : List Char} {token : Token} (h : Cut c rest token after)
    (hs : Seam (c :: rest) t) : Cut c (rest ++ t) token (after ++ t) := by
  have hdigits {ds : List Char} (hd : ∀ d ∈ ds, d.isDigit = true) : ∀ d ∈ ds, isNamePart d = true :=
    fun d h => isNamePart_of_isDigit (hd d h)
  cases h with
  | symbol hd hn => exact .symbol hd hn
  | @name cs _ hd hn hcs hr =>
    rw [List.append_assoc]
    refine .name hd hn hcs (forall_head?_append hr ?_)
    rintro rfl
    rw [List.append_nil] at hs
    have hparts : ∀ d ∈ c :: cs, isNamePart d = true :=
      List.forall_mem_cons.mpr ⟨isNamePart_of_isNameStart hn, hcs⟩
    exact (hs.stops (List.cons_ne_nil c cs) hparts).isNamePart_eq_false
  | @whole ds _ hd hr hp =>
    have hstops (hafter : after = []) : Stops t := by
      rw [hafter, List.append_nil] at hs
      exact hs.stops (List.cons_ne_nil c ds) (hdigits hd)
    rw [List.append_assoc]
    exact .whole hd (forall_head?_append hr fun h => (hstops h).isDigit_eq_false)
      (forall_head?_append hp fun h => (hstops h).ne_point)
  | @decimal ds f fs _ hd hf hr =>
    have hstops (hafter : after = []) : Stops t := by
      rw [hafter, List.append_nil] at hs
      exact (Seam.of_append (u := c :: ds ++ ['.']) (by simpa using hs)).stops (List.cons_ne_nil f fs)
        (hdigits hf)
    have hcut := Cut.decimal hd hf (forall_head?_append hr fun h => (hstops h).isDigit_eq_false)
    simpa using hcut
  | @unfinished ds _ hd hr =>
    cases after with
    | nil => exact absurd rfl (hs '.' (List.getLast?_concat (l := c :: ds))).1
    | cons d after =>
      rw [List.append_assoc]
      exact .unfinished hd hr

theorem scan_append {s t : List Char} (h : Seam s t) (position : Nat) :
    Lexeme.scan position (s ++ t) = Lexeme.scan position s ++ Lexeme.scan (position + byteLength s) t := by
  fun_induction Lexeme.scan position s with
  | case1 position => rfl
  | case2 position c rest hc ih =>
    rw [List.cons_append, Lexeme.scan, if_pos hc, ih (Seam.of_append (u := [c]) h), byteLength, Nat.add_assoc]
  | case3 position c rest hc token =>
    rename_i ih
    rw [Bool.not_eq_true] at hc
    have hcut := ((Token.cut_read c rest).append h).read_eq
    have htext := Token.read_text c rest
    rw [← htext] at h
    rw [List.cons_append, scan_read hc hcut, ih h.of_append, ← htext, byteLength_append, Nat.add_assoc]
    rfl

/-! ## Tokens and errors that move -/

def Lexeme.shift (k : Nat) (l : Lexeme) : Lexeme := { l with position := l.position + k }

/-- The same error in another place. -/
def FormulaError.mapPosition (f : Nat → Nat) : FormulaError → FormulaError
  | unexpected p expected found => unexpected (f p) expected found
  | unknownName p name => unknownName (f p) name

theorem FormulaError.mapPosition_congr {f g : Nat → Nat} {err : FormulaError} (h : f err.position = g err.position) :
    err.mapPosition f = err.mapPosition g := by
  cases err with
  | unexpected p expected found => exact congrArg (unexpected · expected found) h
  | unknownName p name => exact congrArg (unknownName · name) h

theorem FormulaError.mapPosition_id (err : FormulaError) : err.mapPosition id = err := by
  cases err <;> rfl

theorem scan_shift (position k : Nat) (cs : List Char) :
    Lexeme.scan (position + k) cs = (Lexeme.scan position cs).map (Lexeme.shift k) := by
  fun_induction Lexeme.scan position cs with
  | case1 position => simp [Lexeme.scan]
  | case2 position c rest hc ih => rw [Lexeme.scan, if_pos hc, ← ih, Nat.add_right_comm]
  | case3 position c rest hc token =>
    rename_i ih
    rw [Lexeme.scan, if_neg hc, List.map_cons, ← ih, Nat.add_right_comm]
    rfl

section
variable (k : Nat)

theorem next_shift (s : Reading Expr) (l : Lexeme) :
    next s (l.shift k) = (next s l).mapError (.mapPosition (· + k)) := by
  obtain ⟨position, token⟩ := l
  rw [Lexeme.shift]
  cases s with
  | operand groups p =>
    cases token with
    | symbol c =>
      rw [next_operand_symbol, next_operand_symbol]
      split
      · rfl
      · split
        · split <;> rfl
        · rfl
    | name c rest =>
      rw [next_name, next_name]
      cases Variable.ofName? (c :: rest) <;> rfl
    | number c whole fraction => rw [next_number, next_number]; rfl
    | unfinished c whole found =>
      change Except.error (FormulaError.unexpected (position + k + whole.length + 2) .digit found) =
        .error (.unexpected (position + whole.length + 2 + k) .digit found)
      congr 2
      omega
  | operator groups sum value =>
    by_cases h : ∃ c, token = .symbol c
    · obtain ⟨c, rfl⟩ := h
      rw [next_operator_symbol, next_operator_symbol]
      split
      · rfl
      · rfl
      · split <;> rfl
      · rfl
    · have hne : ∀ c, token ≠ .symbol c := fun c hc => h ⟨c, hc⟩
      rw [next_operator_other _ _ _ hne, next_operator_other _ _ _ hne]
      rfl

theorem foldlM_shift (ls : List Lexeme) (s : Reading Expr) :
    (ls.map (Lexeme.shift k)).foldlM next s = (ls.foldlM next s).mapError (.mapPosition (· + k)) := by
  induction ls generalizing s with
  | nil => rfl
  | cons l ls ih =>
    rw [List.map_cons, List.foldlM_cons, List.foldlM_cons, next_shift]
    cases next s l with
    | error e => rfl
    | ok t => exact ih t

theorem result_shift (position : Nat) (s : Reading Expr) :
    result (position + k) s = (result position s).mapError (.mapPosition (· + k)) := by
  cases s with
  | operand groups p => rfl
  | operator groups sum value =>
    cases groups with
    | nil => rw [result_operator_nil, result_operator_nil]; rfl
    | cons p outer => rfl

end

/-! ## Where an error stands -/

theorem position_of_foldlM_error {s : Reading Expr} {position : Nat} {cs : List Char} {err : FormulaError}
    (h : (Lexeme.scan position cs).foldlM next s = .error err) :
    position ≤ err.position ∧ ('.' ∉ cs.getLast? → err.position < position + byteLength cs) := by
  obtain ⟨t, c, rest, s', rfl, -, -, he⟩ := exists_of_foldlM_error position cs h
  have hpos := c.utf8Size_pos
  rw [byteLength_append, byteLength]
  cases stuck_of_next_error he with
  | unexpected | unknownName =>
    rw [FormulaError.position]
    omega
  | @unfinished groups p whole after hs hd hrest hb =>
    subst hrest
    refine ⟨Nat.le_trans (Nat.le_add_right _ _) (Nat.le_add_right _ (whole.length + 2)), ?_⟩
    -- the error stands behind the point, and that is not the last character
    intro hpoint
    have hdigits := byteLength_of_digits hd.2
    rw [byteLength, List.length_cons] at hdigits
    rw [FormulaError.position, byteLength_append whole, byteLength]
    cases after with
    | nil => exact absurd (List.getLast?_concat (l := t ++ c :: whole)) (by simpa using hpoint)
    | cons d after =>
      have hd := d.utf8Size_pos
      have hsize : Char.utf8Size '.' = 1 := rfl
      rw [byteLength]
      omega

/-! ## Inserted white space -/

/-- The error where `w` bytes have been put in at byte `p`. -/
def FormulaError.behind (p w : Nat) : FormulaError → FormulaError :=
  mapPosition fun q => if q < p then q else q + w

theorem FormulaError.behind_of_lt {err : FormulaError} {p : Nat} (h : err.position < p) (w : Nat) :
    err.behind p w = err :=
  calc err.behind p w = err.mapPosition id := mapPosition_congr (if_pos h)
    _ = err := err.mapPosition_id

theorem FormulaError.behind_of_le {err : FormulaError} {p : Nat} (h : p ≤ err.position) (w : Nat) :
    err.behind p w = err.mapPosition (· + w) :=
  mapPosition_congr (if_neg (Nat.not_lt.mpr h))

theorem readTree_insert {s w t : List Char} (hw : Blank w) (h : Seam s t) :
    readTree (byteLength (s ++ w ++ t)) (Lexeme.scan 0 (s ++ w ++ t)) =
      (readTree (byteLength (s ++ t)) (Lexeme.scan 0 (s ++ t))).mapError (.behind (byteLength s) (byteLength w)) := by
  have hafter : Lexeme.scan (0 + byteLength s) (w ++ t) =
      (Lexeme.scan (byteLength s) t).map (Lexeme.shift (byteLength w)) := by
    rw [scan_blank hw, Nat.zero_add, scan_shift]
  have hlength : byteLength (s ++ w ++ t) = byteLength (s ++ t) + byteLength w := by
    rw [byteLength_append, byteLength_append, byteLength_append]
    omega
  rw [readTree, readTree, hlength, List.append_assoc, scan_append (h.of_blank hw), scan_append h, hafter,
    Nat.zero_add, List.foldlM_append, List.foldlM_append]
  -- the tokens of `s` are the same in both texts, and those of `t` have only moved
  cases hfirst : (Lexeme.scan 0 s).foldlM next (operand [] .start) with
  | error err =>
    have hlt := (position_of_foldlM_error hfirst).2 fun hc => (h '.' hc).1 rfl
    rw [Nat.zero_add] at hlt
    exact congrArg Except.error (FormulaError.behind_of_lt hlt _).symm
  | ok r =>
    change (((Lexeme.scan (byteLength s) t).map (Lexeme.shift (byteLength w))).foldlM next r >>= _) =
      ((Lexeme.scan (byteLength s) t).foldlM next r >>= _).mapError _
    rw [foldlM_shift]
    cases hsecond : (Lexeme.scan (byteLength s) t).foldlM next r with
    | error err =>
      exact congrArg Except.error (FormulaError.behind_of_le (position_of_foldlM_error hsecond).1 _).symm
    | ok r' =>
      change result _ r' = (result _ r').mapError _
      rw [result_shift]
      cases hresult : result (byteLength (s ++ t)) r' with
      | ok e => rfl
      | error err =>
        obtain ⟨expected, rfl⟩ := result_error hresult
        have hle : byteLength s ≤ byteLength (s ++ t) := by
          rw [byteLength_append]
          exact Nat.le_add_right ..
        exact congrArg Except.error (FormulaError.behind_of_le hle _).symm

theorem parse_insert {before w after : String} (hw : Blank w.toList) (h : Seam before.toList after.toList)
    (hbytes : (before ++ w ++ after).utf8ByteSize ≤ 4096) :
    parse (before ++ w ++ after) =
      (parse (before ++ after)).mapError (.behind before.utf8ByteSize w.utf8ByteSize) := by
  have hlong : byteLength (before ++ w ++ after).toList ≤ maxFormulaBytes := by
    rw [byteLength_toList]
    exact hbytes
  have hshort : byteLength (before ++ after).toList ≤ maxFormulaBytes := by
    simp only [String.toList_append, byteLength_append] at hlong ⊢
    omega
  rw [parse_eq, parse_eq, if_pos hlong, if_pos hshort, ← byteLength_toList before, ← byteLength_toList w]
  simp only [String.toList_append]
  exact readTree_insert hw h

/-- White space put into a text between two tokens, and not behind a point, leaves the tree as it is, and with
it the value in every state. An error says the same as before; it stays where it is if that is before the white
space, and else it moves on with the text. -/
theorem blank_transparent {before w after : String} (hw : Blank w.toList)
    (h : Seam before.toList after.toList) (hbytes : (before ++ w ++ after).utf8ByteSize ≤ 4096) :
    (∀ e, parse (before ++ after) = .ok e ↔ parse (before ++ w ++ after) = .ok e) ∧
    (∀ err, parse (before ++ after) = .error err →
      parse (before ++ w ++ after) = .error (err.behind before.utf8ByteSize w.utf8ByteSize)) ∧
    ∀ {α : Type} [Scalar α] (state : Point α),
      (∀ v, evaluate (before ++ after) state = .ok v ↔ evaluate (before ++ w ++ after) state = .ok v) ∧
      ∀ err, evaluate (before ++ after) state = .error err →
        evaluate (before ++ w ++ after) state = .error (err.behind before.utf8ByteSize w.utf8ByteSize) := by
  simp only [evaluate_eq, parse_insert hw h hbytes]
  cases parse (before ++ after) with
  | ok e => exact ⟨fun _ => Iff.rfl, nofun, fun state => ⟨fun _ => Iff.rfl, nofun⟩⟩
  | error e =>
    refine ⟨fun _ => ⟨nofun, nofun⟩, ?_, fun state => ⟨fun _ => ⟨nofun, nofun⟩, ?_⟩⟩
    · intro err herr
      cases herr
      rfl
    · intro err herr
      cases herr
      rfl

/-- An ideographic space takes three bytes. -/
theorem blank_transparent_wide :
    let w := "\u3000 "
    Blank w.toList ∧ Seam "2*".toList "(x)".toList ∧ Seam "2*(".toList ")".toList ∧
    ("2*" ++ w ++ "(x)").utf8ByteSize ≤ 4096 ∧ ("2*(" ++ w ++ ")").utf8ByteSize ≤ 4096 ∧
    parse "2*(x)" = .ok (.binary .mul (.const 2) (.var .x)) ∧
    parse "2*\u3000 (x)" = .ok (.binary .mul (.const 2) (.var .x)) ∧
    parse "2*()" = .error (.unexpected 3 .factor (some ')')) ∧
    parse "2*(\u3000 )" = .error (.unexpected 7 .factor (some ')')) ∧
    evaluate "2*(\u3000 )" (⟨3, 5⟩ : Point Float) = .error (.unexpected 7 .factor (some ')')) := by
  intro w
  have hw : Blank w.toList := List.all_eq_true.mp (by decide : w.toList.all isBlank = true)
  have hproduct : Seam "2*".toList "(x)".toList := seam_symbol (c := '*') (by decide) ['2'] _
  have hgroup : Seam "2*(".toList ")".toList := seam_symbol (c := '(') (by decide) ['2', '*'] _
  have hb : ("2*" ++ w ++ "(x)").utf8ByteSize ≤ 4096 := by decide
  have hb' : ("2*(" ++ w ++ ")").utf8ByteSize ≤ 4096 := by decide
  have htree : parse "2*(x)" = .ok (.binary .mul (.const 2) (.var .x)) := by decide +kernel
  have herror : parse "2*()" = .error (.unexpected 3 .factor (some ')')) := by decide +kernel
  have hvalue : evaluate "2*()" (⟨3, 5⟩ : Point Float) = .error (.unexpected 3 .factor (some ')')) :=
    evaluate_eq_error_iff.mpr herror
  obtain ⟨-, hmoved, hvalues⟩ := blank_transparent hw hgroup hb'
  refine ⟨hw, hproduct, hgroup, hb, hb', htree, ?_, herror, hmoved _ herror, (hvalues _).2 _ hvalue⟩
  exact ((blank_transparent hw hproduct hb).1 _).mp htree

end PhasePortrait
