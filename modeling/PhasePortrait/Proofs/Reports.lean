import PhasePortrait.Proofs.Building
import PhasePortrait.Proofs.Nesting
import PhasePortrait.Proofs.Viability

/-! # What errors report

An error says where the text was cut, what was expected there and what was found. Whatever it says is true of
the text before and after the cut, also where the text is too long to be read at all.
-/
namespace PhasePortrait
open Reading Text

/-- What has been expected where the text `before` ends and `after` begins is missing there, and with reason. -/
def Expected.Fits (before after : List Char) : Expected → Prop
  | char c => c = ')' ∧ 0 < openAfter 0 before ∧ after.head? ≠ some ')'
  | digit => (∃ s ds, before = s ++ ds ++ ['.'] ∧ Digits ds) ∧ ∀ d ∈ after.head?, d.isDigit = false
  | factor => ∀ d ∈ after.head?, d ≠ '(' ∧ d.isDigit = false ∧ isNameStart d = false
  | endOfInput => openAfter 0 before = 0 ∧ after ≠ []
  | nesting limit => limit = 64 ∧ openAfter 0 before = 64 ∧ after.head? = some '('
  | length limit => limit = 4096 ∧ 4096 < byteLength (before ++ after) ∧ 4096 ≤ byteLength before ∧
      ∀ t, t <+: before → t ≠ before → byteLength t < 4096

/-- The error describes the text that is cut between `before` and `after`. An unknown name is the longest one
that can be read there. -/
def FormulaError.Describes (before after : List Char) : FormulaError → Prop
  | unexpected _ expected found => found = after.head? ∧ expected.Fits before after
  | unknownName _ name => name.toList = after.takeWhile isNamePart ∧ (∃ c ∈ after.head?, isNameStart c = true) ∧
      name ≠ "x" ∧ name ≠ "y"

/-- The position of the error cuts the text where the error describes it. -/
def FormulaError.Reports (text : List Char) (err : FormulaError) : Prop :=
  ∃ before after, text = before ++ after ∧ byteLength before = err.position ∧ err.Describes before after

/-! ## A text that is too long -/

/-- The first cut at or after a byte. -/
theorem boundaryFrom_eq {limit position : Nat} {cs : List Char} (h : limit ≤ position + byteLength cs) :
    ∃ before after, cs = before ++ after ∧
      boundaryFrom limit position cs = (position + byteLength before, after.head?) ∧
      limit ≤ position + byteLength before ∧ ∀ t, t <+: before → t ≠ before → position + byteLength t < limit := by
  fun_induction boundaryFrom limit position cs with
  | case1 position =>
    refine ⟨[], [], rfl, rfl, h, ?_⟩
    intro t ht hne
    exact absurd (List.prefix_nil.mp ht) hne
  | case2 position c rest hle =>
    refine ⟨[], c :: rest, rfl, rfl, hle, ?_⟩
    intro t ht hne
    exact absurd (List.prefix_nil.mp ht) hne
  | case3 position c rest hlt ih =>
    rw [byteLength, ← Nat.add_assoc] at h
    obtain ⟨before, after, rfl, heq, hle, hfirst⟩ := ih h
    refine ⟨c :: before, after, rfl, ?_, ?_, ?_⟩
    · rw [heq, byteLength, Nat.add_assoc]
    · rwa [byteLength, ← Nat.add_assoc]
    · intro t ht hne
      rcases List.prefix_cons_iff.mp ht with rfl | ⟨u, rfl, hu⟩
      · exact Nat.lt_of_not_le hlt
      · rw [byteLength, ← Nat.add_assoc]
        exact hfirst u hu fun he => hne (congrArg _ he)

theorem reports_of_too_long {cs : List Char} (h : maxFormulaBytes < byteLength cs) :
    (FormulaError.unexpected (boundaryFrom maxFormulaBytes 0 cs).1 (.length maxFormulaBytes)
      (boundaryFrom maxFormulaBytes 0 cs).2).Reports cs := by
  have hle : maxFormulaBytes ≤ 0 + byteLength cs := by omega
  obtain ⟨before, after, rfl, heq, hle, hfirst⟩ := boundaryFrom_eq hle
  simp only [Nat.zero_add] at heq hle hfirst
  rw [heq]
  exact ⟨before, after, rfl, rfl, rfl, rfl, h, hle, hfirst⟩

/-! ## A token that is refused -/

theorem isNamePart_of_isNameStart {c : Char} (h : isNameStart c = true) : isNamePart c = true := by
  simp only [isNameStart, Bool.or_eq_true] at h
  rcases h with h | h <;> simp [isNamePart, h]

theorem takeWhile_isNamePart {c : Char} {cs after : List Char} (hn : isNameStart c = true)
    (hs : ∀ d ∈ cs, isNamePart d = true) (hr : ∀ d ∈ after.head?, isNamePart d = false) :
    (c :: cs ++ after).takeWhile isNamePart = c :: cs :=
  (takeWhile_append_of_head (List.forall_mem_cons.mpr ⟨isNamePart_of_isNameStart hn, hs⟩) hr).1

theorem Variable.ne_name_of_ofName? {s : List Char} (h : ofName? s = none) (v : Variable) :
    String.ofList s ≠ String.ofList v.name := by
  intro he
  rw [String.ofList_injective he, ofName?_eq_some_iff.mpr rfl] at h
  cases h

/-- After an operand every refused token is reported in the same way. -/
theorem eq_of_operator_error {groups : List (Pending Expr)} {sum : Option (Expr × BinaryOp)} {value : Expr}
    {position : Nat} {c : Char} {rest after : List Char} {token : Token} {err : FormulaError}
    (hcut : Token.Cut c rest token after) (h : next (operator groups sum value) ⟨position, token⟩ = .error err) :
    err = .unexpected position (if groups.isEmpty then .endOfInput else .char ')') (some c) ∧
      (groups ≠ [] → c ≠ ')') := by
  by_cases hsymbol : c.isDigit = false ∧ isNameStart c = false
  · cases hcut.read_eq.symm.trans (Token.read_symbol hsymbol.1 hsymbol.2 rest)
    rw [next_operator_symbol] at h
    split at h
    · cases h
    · cases h
    · split at h
      · cases h
      · rename_i hc
        cases h
        exact ⟨rfl, fun _ => hc⟩
    · cases h
      exact ⟨rfl, fun hne => absurd rfl hne⟩
  · have hother : ∀ d, token ≠ .symbol d := by
      rintro d rfl
      exact hsymbol hcut.of_symbol
    have hfirst : token.first = c := by cases hcut <;> rfl
    rw [next_operator_other groups sum value hother, hfirst] at h
    cases h
    refine ⟨rfl, ?_⟩
    rintro - rfl
    exact hsymbol ⟨by decide, by decide⟩

section
variable {t rest after : List Char} {c : Char} {groups : List (Pending Expr)} {p : Pending Expr} {err : FormulaError}

/-- Where an operand is expected, a symbol is refused that begins none, or a parenthesis too many. -/
theorem reports_of_operand_symbol (hopen : openAfter 0 t = groups.length) (hle : groups.length ≤ maxNesting)
    (hd : c.isDigit = false) (hn : isNameStart c = false)
    (h : next (operand groups p) ⟨byteLength t, .symbol c⟩ = .error err) : err.Reports (t ++ c :: rest) := by
  rw [next_operand_symbol] at h
  split at h
  · cases h
  · split at h
    · rename_i hc
      split at h
      · cases h
      · rename_i hlimit
        cases h
        have hall : groups.length = maxNesting := Nat.le_antisymm hle (Nat.le_of_not_lt hlimit)
        exact ⟨t, c :: rest, rfl, rfl, rfl, rfl, hopen.trans hall, congrArg some hc⟩
    · rename_i hc
      cases h
      refine ⟨t, c :: rest, rfl, rfl, rfl, ?_⟩
      intro d hmem
      cases hmem
      exact ⟨hc, hd, hn⟩

theorem reports_of_operand_name {cs : List Char} (hn : isNameStart c = true)
    (hs : ∀ d ∈ cs, isNamePart d = true) (hr : ∀ d ∈ after.head?, isNamePart d = false)
    (h : next (operand groups p) ⟨byteLength t, .name c cs⟩ = .error err) :
    err.Reports (t ++ c :: (cs ++ after)) := by
  rw [next_name] at h
  cases hv : Variable.ofName? (c :: cs) with
  | some v => rw [hv] at h; cases h
  | none =>
    rw [hv] at h
    cases h
    have hx := Variable.ne_name_of_ofName? hv .x
    have hy := Variable.ne_name_of_ofName? hv .y
    refine ⟨t, c :: (cs ++ after), rfl, rfl, ?_, ⟨c, rfl, hn⟩, hx, hy⟩
    rw [String.toList_ofList]
    exact (takeWhile_isNamePart hn hs hr).symm

/-- The position is that behind the point. -/
theorem reports_of_unfinished {ds : List Char} (hd : Digits (c :: ds)) (hr : ∀ d ∈ after.head?, d.isDigit = false)
    (h : next (operand groups p) ⟨byteLength t, .unfinished c ds after.head?⟩ = .error err) :
    err.Reports (t ++ c :: (ds ++ '.' :: after)) := by
  cases h
  refine ⟨t ++ (c :: ds) ++ ['.'], after, by simp, ?_, rfl, ⟨t, c :: ds, rfl, hd⟩, hr⟩
  rw [byteLength_append, byteLength_append, byteLength_of_digits hd.2]
  rfl

variable {token : Token} (hopen : openAfter 0 t = groups.length) (hcut : Token.Cut c rest token after)
include hopen hcut

theorem reports_of_operand_error (hle : groups.length ≤ maxNesting)
    (h : next (operand groups p) ⟨byteLength t, token⟩ = .error err) : err.Reports (t ++ c :: rest) := by
  cases hcut with
  | symbol hd hn => exact reports_of_operand_symbol hopen hle hd hn h
  | name hd hn hs hr => exact reports_of_operand_name hn hs hr h
  | whole | decimal => rw [next_number] at h; cases h
  | @unfinished ds _ hd hr => exact reports_of_unfinished ⟨List.cons_ne_nil c ds, hd⟩ hr h

theorem reports_of_operator_error {sum : Option (Expr × BinaryOp)} {value : Expr}
    (h : next (operator groups sum value) ⟨byteLength t, token⟩ = .error err) : err.Reports (t ++ c :: rest) := by
  obtain ⟨rfl, hc⟩ := eq_of_operator_error hcut h
  refine ⟨t, c :: rest, rfl, rfl, rfl, ?_⟩
  cases groups with
  | nil => exact ⟨hopen, List.cons_ne_nil c rest⟩
  | cons p outer =>
    refine ⟨rfl, ?_, ?_⟩
    · rw [hopen]
      exact Nat.succ_pos _
    · intro he
      exact hc (List.cons_ne_nil p outer) (Option.some.inj he)

end

theorem reports_of_next_error {s : Reading Expr} {t rest : List Char} {c : Char} {err : FormulaError}
    (hopen : openAfter 0 t = s.depth) (hle : s.depth ≤ maxNesting)
    (h : next s ⟨byteLength t, (Token.read c rest).1⟩ = .error err) : err.Reports (t ++ c :: rest) := by
  cases s with
  | operand => exact reports_of_operand_error hopen (Token.cut_read c rest) hle h
  | operator => exact reports_of_operator_error hopen (Token.cut_read c rest) h

/-! ## Every error -/

theorem reports_of_result_error {s : Reading Expr} {cs : List Char} {err : FormulaError}
    (hopen : openAfter 0 cs = s.depth) (h : result (byteLength cs) s = .error err) : err.Reports cs := by
  refine ⟨cs, [], (List.append_nil cs).symm, ?_⟩
  cases s with
  | operand groups p =>
    cases h
    exact ⟨rfl, rfl, nofun⟩
  | operator groups sum value =>
    cases groups with
    | nil =>
      rw [result_operator_nil] at h
      cases h
    | cons p outer =>
      cases h
      refine ⟨rfl, rfl, rfl, ?_, nofun⟩
      rw [hopen]
      exact Nat.succ_pos _

/-- White space behind what has been read opens and closes nothing. -/
theorem ReadText.openAfter_append_blank {s : Reading Expr} {body trailing : List Char} (h : ReadText s body)
    (ht : Blank trailing) : openAfter 0 (body ++ trailing) = s.depth := by
  rw [openAfter_append, h.openAfter_eq, ht.flat.openAfter]

theorem reports_of_readTree_error {cs : List Char} {err : FormulaError}
    (h : readTree (byteLength cs) (Lexeme.scan 0 cs) = .error err) : err.Reports cs := by
  rw [readTree] at h
  cases hrun : (Lexeme.scan 0 cs).foldlM next (operand [] .start) with
  | ok s =>
    rw [hrun] at h
    obtain ⟨body, trailing, hbody, htrailing, rfl⟩ := exists_readText hrun
    exact reports_of_result_error (hbody.openAfter_append_blank htrailing) h
  | error err' =>
    rw [hrun] at h
    cases h
    obtain ⟨t, c, rest, s, rfl, -, hr, he⟩ := exists_of_foldlM_error 0 cs hrun
    obtain ⟨body, trailing, hbody, htrailing, rfl⟩ := (hr [] (by simp)).exists_readText
    rw [Nat.zero_add] at he
    exact reports_of_next_error (hbody.openAfter_append_blank htrailing) hbody.depth_le he

theorem reports_of_parse_error {text : String} {err : FormulaError} (h : parse text = .error err) :
    err.Reports text.toList := by
  rw [parse_eq] at h
  split at h
  · exact reports_of_readTree_error h
  · rename_i hlong
    cases h
    exact reports_of_too_long (Nat.lt_of_not_le hlong)

/-- A text is too long exactly if that is what its error says. -/
theorem too_long_iff {text : String} {err : FormulaError} (h : parse text = .error err) :
    4096 < text.utf8ByteSize ↔ ∃ position found, err = .unexpected position (.length 4096) found := by
  constructor
  · intro hlong
    have hlimit : ¬byteLength text.toList ≤ maxFormulaBytes := by
      rw [byteLength_toList]
      exact Nat.not_le_of_lt hlong
    rw [parse_eq, if_neg hlimit] at h
    cases h
    exact ⟨_, _, rfl⟩
  · rintro ⟨position, found, rfl⟩
    obtain ⟨before, after, htext, -, -, -, hlong, -⟩ := reports_of_parse_error h
    rwa [← htext, byteLength_toList] at hlong

/-- Every error, be it of reading a text to its tree or to a value, cuts the text between two characters and
describes it there: what is found is the character after the cut, or the end exactly where the text ends. The
length is reported for the texts of more than 4096 bytes and for no others, at the first cut that is not before
byte 4096; a missing digit only after digits and a point; the nesting only at a parenthesis that would be the
65th to be open; and an unknown name is the longest that begins at the cut. -/
theorem parse_error_reports {text : String} {err : FormulaError} {α : Type} [Scalar α] {state : Point α}
    (h : parse text = .error err ∨ evaluate text state = .error err) :
    err.position ≤ text.utf8ByteSize ∧
    (4096 < text.utf8ByteSize ↔ ∃ position found, err = .unexpected position (.length 4096) found) ∧
    (∀ position expected found, err = .unexpected position expected found →
      (found = none ↔ position = text.utf8ByteSize)) ∧
    ∃ before after, text.toList = before ++ after ∧ byteLength before = err.position ∧
      err.Describes before after := by
  have hparse : parse text = .error err := h.elim id evaluate_eq_error_iff.mp
  obtain ⟨before, after, htext, hposition, hdescribes⟩ := reports_of_parse_error hparse
  have hbytes : text.utf8ByteSize = err.position + byteLength after := by
    rw [← byteLength_toList, htext, byteLength_append, hposition]
  refine ⟨?_, too_long_iff hparse, ?_, before, after, htext, hposition, hdescribes⟩
  · omega
  · rintro position expected found rfl
    obtain ⟨rfl, -⟩ := hdescribes
    change text.utf8ByteSize = position + byteLength after at hbytes
    cases after with
    | nil => simpa [byteLength] using hbytes.symm
    | cons c after =>
      have hpos := c.utf8Size_pos
      rw [byteLength] at hbytes
      refine ⟨fun he => absurd he (Option.some_ne_none c), ?_⟩
      intro he
      omega

/-- The last character of the first text reaches over byte 4096, so the first cut from there on is the end. -/
theorem parse_error_reports_cuts :
    let cs := List.replicate 1023 '😀' ++ ['語', 'é']
    parse (String.ofList cs) = .error (.unexpected 4097 (.length 4096) none) ∧
    4096 < (String.ofList cs).utf8ByteSize ∧ 4097 = (String.ofList cs).utf8ByteSize ∧
    evaluate "y*ñ1+x" (⟨3, 5⟩ : Point Float) = .error (.unknownName 2 "ñ1") ∧
    ∃ before after, "y*ñ1+x".toList = before ++ after ∧ byteLength before = 2 ∧
      "ñ1".toList = after.takeWhile isNamePart := by
  intro cs
  have hbytes : byteLength cs = 4097 := by decide +kernel
  have hcut : boundaryFrom maxFormulaBytes 0 cs = (4097, none) := by decide +kernel
  have hlong : parse (String.ofList cs) = .error (.unexpected 4097 (.length 4096) none) := by
    rw [parse_eq, String.toList_ofList, hbytes, hcut]
    rfl
  have hname : evaluate "y*ñ1+x" (⟨3, 5⟩ : Point Float) = .error (.unknownName 2 "ñ1") := by decide +kernel
  obtain ⟨-, htoo, hend, -⟩ := @parse_error_reports _ _ Float _ ⟨3, 5⟩ (.inl hlong)
  obtain ⟨-, -, -, before, after, htext, hposition, htake, -⟩ := parse_error_reports (.inr hname)
  exact ⟨hlong, htoo.mpr ⟨_, _, rfl⟩, (hend _ _ _ rfl).mp rfl, hname, before, after, htext, hposition, htake⟩

end PhasePortrait
