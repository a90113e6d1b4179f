import PhasePortrait.Proofs.Scanning
import PhasePortrait.Proofs.TreeReading

/-! # Which texts are accepted

The reading machine accepts the formulas of the grammar and builds their trees. Towards the machine,
each phrase takes it from the operand it expects to the state after that operand; towards the
grammar, every state that can be reached tells how the text read so far is made of phrases.
-/
namespace PhasePortrait
open Reading Text

/-! ## From the grammar to the machine -/

/-- In front of `rest`, reading the text `t` takes the machine from one state to another. -/
def Reads (rest : List Char) (s : Reading Expr) (t : List Char) (s' : Reading Expr) : Prop :=
  ∀ position, (Lexeme.scan position (t ++ rest)).foldlM next s =
    (Lexeme.scan (position + byteLength t) rest).foldlM next s'

theorem byteLength_append (s t : List Char) : byteLength (s ++ t) = byteLength s + byteLength t := by
  induction s with
  | nil => simp [byteLength]
  | cons c s ih => rw [List.cons_append, byteLength, byteLength, ih, Nat.add_assoc]

theorem Reads.refl (rest : List Char) (s : Reading Expr) : Reads rest s [] s := fun _ => rfl

theorem Reads.trans {rest t t' : List Char} {s s' s'' : Reading Expr} (h : Reads (t' ++ rest) s t s')
    (h' : Reads rest s' t' s'') : Reads rest s (t ++ t') s'' := by
  intro position
  rw [List.append_assoc, h position, h' (position + byteLength t), byteLength_append, Nat.add_assoc]

theorem Reads.token {rest w u : List Char} {c : Char} {token : Token} {s s' : Reading Expr} (hw : Blank w)
    (hc : isBlank c = false) (hr : Token.read c (u ++ rest) = (token, rest)) (h : Step s token s') :
    Reads rest s (w ++ c :: u) s' := by
  intro position
  have ht : token.text = c :: u := by
    have h := Token.read_text c (u ++ rest)
    rw [hr] at h
    exact List.append_cancel_right h
  rw [List.append_assoc, scan_blank hw, List.cons_append, scan_read hc hr, List.foldlM_cons, next_of_step h, ht,
    byteLength_append, Nat.add_assoc]
  rfl

theorem Reads.symbol {rest w : List Char} {c : Char} {s s' : Reading Expr} (hw : Blank w) (hc : c ∈ symbols)
    (h : Step s (.symbol c) s') : Reads rest s (w ++ [c]) s' := by
  obtain ⟨⟨hb, hd, hn⟩, -⟩ := symbol_classes c hc
  exact Reads.token hw hb (Token.read_symbol hd hn rest) h

/-- A phrase, a symbol after it and what follows the symbol. -/
theorem Reads.around {rest t w u : List Char} {c : Char} {s₁ s₂ s₃ s₄ : Reading Expr} (hw : Blank w)
    (hc : c ∈ symbols) (h : Reads (w ++ c :: (u ++ rest)) s₁ t s₂) (hs : Step s₂ (.symbol c) s₃)
    (hu : Reads rest s₃ u s₄) : Reads rest s₁ (t ++ w ++ c :: u) s₄ := by
  have h' : Reads (((w ++ [c]) ++ u) ++ rest) s₁ t s₂ := by simpa using h
  simpa using h'.trans ((Reads.symbol hw hc hs).trans hu)

/-- What reading a phrase with the tree `e` does inside the open groups `groups`. -/
def Phrase.Completes (groups : List (Pending Expr)) (rest s : List Char) (e : Expr) : Phrase → Prop
  | expression => ∃ sum value, joined sum value = e ∧ Reads rest (operand groups .start) s (operator groups sum value)
  | term => ∀ sum, Reads rest (operand groups ⟨sum, none, false⟩) s (operator groups sum e)
  | factor => ∀ sum product,
    Reads rest (operand groups ⟨sum, product, false⟩) s (operator groups sum (joined product e))
  | primary => ∀ p, Reads rest (operand groups p) s (operator groups p.sum (p.closed e))

/-- A phrase in which no more parentheses are open than there is room for is read to its end. -/
theorem Derives.completes {k : Phrase} {n : Nat} {s : List Char} {e : Expr} (h : Derives k n s e)
    {groups : List (Pending Expr)} (hn : n + groups.length ≤ maxNesting) {rest : List Char} (hr : Stops rest) :
    k.Completes groups rest s e := by
  induction h generalizing groups rest with
  | ofTerm h ih => exact ⟨none, _, rfl, ih hn hr none⟩
  | @sum n s w t l r op hl hw hop hr' ihl ihr =>
    obtain ⟨sum, value, rfl, hs⟩ := ihl hn (stops_symbol hw op.symbol_mem (t ++ rest))
    refine ⟨some (joined sum value, op), r, rfl, ?_⟩
    exact hs.around hw op.symbol_mem (.additive (BinaryOp.additive?_eq_some_iff.mpr ⟨hop, rfl⟩)) (ihr hn hr _)
  | ofFactor h ih => exact fun sum => ih hn hr sum none
  | @product n s w t l r op hl hw hop hr' ihl ihr =>
    intro sum
    have hs := ihl hn (stops_symbol hw op.symbol_mem (t ++ rest)) sum
    exact hs.around hw op.symbol_mem (.multiplicative (BinaryOp.multiplicative?_eq_some_iff.mpr ⟨hop, rfl⟩))
      (ihr hn hr _ _)
  | ofPrimary h ih => exact fun sum product => ih hn hr ⟨sum, product, false⟩
  | @negate n w s e hw h ih =>
    intro sum product
    have hs := (Reads.symbol hw (by decide) .sign).trans (ih hn hr ⟨sum, product, true⟩)
    simpa [Pending.closed] using hs
  | @group n w s w' e hw h hw' ih =>
    intro p
    have hl : groups.length < maxNesting := by omega
    have hn' : n + (p :: groups).length ≤ maxNesting := by
      rw [List.length_cons]
      omega
    have hc : ')' ∈ symbols := by decide
    obtain ⟨sum, value, rfl, hs⟩ := ih hn' (stops_symbol hw' hc rest)
    have hs : Reads rest _ (s ++ w' ++ [')']) _ := hs.around hw' hc .closing (Reads.refl rest _)
    simpa using (Reads.symbol hw (by decide) (.opening hl)).trans hs
  | @«variable» n w v hw =>
    intro p
    have hr := hr.isNamePart_eq_false
    cases v with
    | x => exact Reads.token hw (by decide) (Token.read_name (by decide) (by decide) (by simp) hr) (.variable rfl)
    | y => exact Reads.token hw (by decide) (Token.read_name (by decide) (by decide) (by simp) hr) (.variable rfl)
  | @whole n w ds hw hd =>
    intro p
    cases ds with
    | nil => exact (hd.1 rfl).elim
    | cons d ds =>
      have hb := isBlank_eq_false_of_isDigit (hd.2 d List.mem_cons_self)
      exact Reads.token hw hb (Token.read_whole hd.2 hr.isDigit_eq_false hr.ne_point) .number
  | @decimal n w ds fs hw hd hf =>
    intro p
    cases ds with
    | nil => exact (hd.1 rfl).elim
    | cons d ds =>
      cases fs with
      | nil => exact (hf.1 rfl).elim
      | cons f fs =>
        have hb := isBlank_eq_false_of_isDigit (hd.2 d List.mem_cons_self)
        have ht : Token.read d ((ds ++ '.' :: f :: fs) ++ rest) = (.number d ds (f :: fs), rest) := by
          simpa using Token.read_decimal hd.2 hf.2 hr.isDigit_eq_false
        simpa using Reads.token hw hb ht .number

theorem IsFormula.readTree_eq {s : List Char} {e : Expr} (h : IsFormula maxNesting s e) (position : Nat) :
    readTree position (Lexeme.scan 0 s) = .ok e := by
  obtain ⟨body, trailing, hd, ht, rfl⟩ := h
  have hstop : Stops trailing := by simpa using Stops.of_blank ht stops_nil
  have hn : maxNesting + ([] : List (Pending Expr)).length ≤ maxNesting := Nat.le_refl _
  obtain ⟨sum, value, rfl, hs⟩ := hd.completes hn hstop
  have hend := scan_blank ht (0 + byteLength body) []
  rw [List.append_nil] at hend
  rw [readTree, hs 0, hend, Lexeme.scan, List.foldlM_nil]
  exact result_operator_nil position sum value

/-! ## From the machine to the grammar -/

/-- The text of a sum that lacks its last term. -/
inductive SumText (n : Nat) : Option (Expr × BinaryOp) → List Char → Prop
  | none : SumText n none []
  | some {t w l op} (hl : Derives .expression n t l) (hw : Blank w) (hop : op = .add ∨ op = .sub) :
    SumText n (some (l, op)) (t ++ w ++ [op.symbol])

/-- The text of a product that lacks its last factor. -/
inductive ProductText (n : Nat) : Option (Expr × BinaryOp) → List Char → Prop
  | none : ProductText n none []
  | some {t w l op} (hl : Derives .term n t l) (hw : Blank w) (hop : op = .mul ∨ op = .div) :
    ProductText n (some (l, op)) (t ++ w ++ [op.symbol])

/-- The text in front of an operand, inside one group. -/
inductive PendingText (n : Nat) : Pending Expr → List Char → Prop
  | unsigned {sum product s t} (hs : SumText n sum s) (hp : ProductText n product t) :
    PendingText n ⟨sum, product, false⟩ (s ++ t)
  | signed {sum product s t w} (hs : SumText n sum s) (hp : ProductText n product t) (hw : Blank w) :
    PendingText n ⟨sum, product, true⟩ (s ++ t ++ w ++ ['-'])

/-- The text up to the last group that is still open; `n` more may be opened inside it. -/
inductive GroupsText : Nat → List (Pending Expr) → List Char → Prop
  | nil : GroupsText maxNesting [] []
  | cons {n p outer s t w} (ho : GroupsText (n + 1) outer s) (hp : PendingText (n + 1) p t) (hw : Blank w) :
    GroupsText n (p :: outer) (s ++ t ++ w ++ ['('])

/-- The text that has been read in a state. -/
inductive ReadText : Reading Expr → List Char → Prop
  | operand {n groups p s t} (hg : GroupsText n groups s) (hp : PendingText n p t) :
    ReadText (operand groups p) (s ++ t)
  | operator {n groups sum value s t u} (hg : GroupsText n groups s) (hs : SumText n sum t)
    (hv : Derives .term n u value) : ReadText (operator groups sum value) (s ++ t ++ u)

theorem GroupsText.length {n : Nat} {groups : List (Pending Expr)} {s : List Char} (h : GroupsText n groups s) :
    n + groups.length = maxNesting := by
  induction h with
  | nil => rfl
  | cons ho hp hw ih =>
    rw [List.length_cons]
    omega

theorem SumText.joined {n : Nat} {sum : Option (Expr × BinaryOp)} {s t : List Char} {e : Expr}
    (hs : SumText n sum s) (ht : Derives .term n t e) : Derives .expression n (s ++ t) (joined sum e) := by
  cases hs with
  | none => exact .ofTerm ht
  | some hl hw hop => simpa [PhasePortrait.joined] using Derives.sum hl hw hop ht

theorem ProductText.joined {n : Nat} {product : Option (Expr × BinaryOp)} {s t : List Char} {e : Expr}
    (hs : ProductText n product s) (ht : Derives .factor n t e) :
    Derives .term n (s ++ t) (joined product e) := by
  cases hs with
  | none => exact .ofFactor ht
  | some hl hw hop => simpa [PhasePortrait.joined] using Derives.product hl hw hop ht

theorem PendingText.closed {n : Nat} {p : Pending Expr} {s t : List Char} {e : Expr} (hp : PendingText n p s)
    (ht : Derives .primary n t e) :
    ∃ s' t', SumText n p.sum s' ∧ Derives .term n t' (p.closed e) ∧ s ++ t = s' ++ t' := by
  cases hp with
  | @unsigned sum product s u hs hu =>
    exact ⟨s, u ++ t, hs, hu.joined (.ofPrimary ht), List.append_assoc ..⟩
  | @signed sum product s u w hs hu hw =>
    exact ⟨s, u ++ (w ++ '-' :: t), hs, hu.joined (.negate hw ht), by simp⟩

theorem ReadText.closed {n : Nat} {groups : List (Pending Expr)} {p : Pending Expr} {s t u : List Char}
    {e : Expr} (hg : GroupsText n groups s) (hp : PendingText n p t) (hu : Derives .primary n u e) :
    ReadText (Reading.operator groups p.sum (p.closed e)) (s ++ t ++ u) := by
  obtain ⟨t', u', hs, hv, he⟩ := hp.closed hu
  rw [List.append_assoc, he, ← List.append_assoc]
  exact .operator hg hs hv

theorem pendingText_start (n : Nat) : PendingText n .start [] := .unsigned .none .none

theorem derives_number {n : Nat} {w whole fraction : List Char} {c : Char} (hw : Blank w)
    (hd : (Token.number c whole fraction).AllDigits) :
    Derives .primary n (w ++ (Token.number c whole fraction).text)
      (.const (literalValue (c :: whole) fraction)) := by
  obtain ⟨hd, hf⟩ := hd
  cases fraction with
  | nil => exact .whole hw hd
  | cons f fs => simpa [Token.text] using Derives.decimal hw hd ⟨List.cons_ne_nil f fs, hf⟩

/-- A step reads its token and the white space before it. -/
theorem ReadText.step {s s' : Reading Expr} {t w : List Char} {token : Token} (h : ReadText s t)
    (hstep : Step s token s') (hw : Blank w) (hd : token.AllDigits) : ReadText s' (t ++ w ++ token.text) := by
  cases hstep with
  | sign =>
    cases h with
    | operand hg hp =>
      cases hp with
      | unsigned hs hp => simpa [Token.text] using ReadText.operand hg (.signed hs hp hw)
  | opening hl =>
    cases h with
    | @operand n _ _ _ _ hg hp =>
      have hn := hg.length
      obtain ⟨m, rfl⟩ : ∃ m, n = m + 1 := ⟨n - 1, by omega⟩
      simpa [Token.text] using ReadText.operand (.cons hg hp hw) (pendingText_start m)
  | number =>
    cases h with
    | operand hg hp => simpa using ReadText.closed hg hp (derives_number hw hd)
  | @«variable» _ _ c rest v hv =>
    cases h with
    | operand hg hp =>
      have hn : c :: rest = v.name := Variable.ofName?_eq_some_iff.mp hv
      simpa [Token.text, hn] using ReadText.closed hg hp (.variable (v := v) hw)
  | additive ha =>
    cases h with
    | operator hg hs hv =>
      obtain ⟨hop, rfl⟩ := BinaryOp.additive?_eq_some_iff.mp ha
      simpa [Token.text] using ReadText.operand hg (.unsigned (.some (hs.joined hv) hw hop) .none)
  | multiplicative hm =>
    cases h with
    | operator hg hs hv =>
      obtain ⟨hop, rfl⟩ := BinaryOp.multiplicative?_eq_some_iff.mp hm
      simpa [Token.text] using ReadText.operand hg (.unsigned hs (.some hv hw hop))
  | closing =>
    cases h with
    | operator hg hs hv =>
      cases hg with
      | cons ho hp hw' => simpa [Token.text] using ReadText.closed ho hp (.group hw' (hs.joined hv) hw)

/-- As for one step, so for a whole run: what has been read, and white space, makes up the text. -/
theorem ReadText.run {s s' : Reading Expr} {t w : List Char} (h : ReadText s t) (hw : Blank w) (position : Nat)
    (cs : List Char) (hrun : (Lexeme.scan position cs).foldlM next s = .ok s') :
    ∃ body trailing, ReadText s' body ∧ Blank trailing ∧ t ++ w ++ cs = body ++ trailing := by
  fun_induction Lexeme.scan position cs generalizing s t w with
  | case1 position =>
    cases hrun
    exact ⟨t, w, h, hw, List.append_nil _⟩
  | case2 position c rest hc ih =>
    have hwc : Blank (w ++ [c]) := hw.append (by simpa [Blank] using hc)
    simpa using ih h hwc hrun
  | case3 position c rest hc token =>
    rename_i ih
    have ht : token.1.text ++ token.2 = c :: rest := Token.read_text c rest
    rw [List.foldlM_cons] at hrun
    cases hn : s.next ⟨position, token.1⟩ with
    | error e => rw [hn] at hrun; cases hrun
    | ok s₁ =>
      rw [hn] at hrun
      have h₁ := h.step (step_of_next hn) hw (Token.read_allDigits c rest)
      simpa [ht] using ih h₁ blank_nil hrun

theorem readTree_eq_ok_iff (position : Nat) (s : List Char) (e : Expr) :
    readTree position (Lexeme.scan 0 s) = .ok e ↔ IsFormula maxNesting s e := by
  constructor
  · intro h
    have hstart : ReadText (operand [] .start) [] := .operand .nil (pendingText_start maxNesting)
    rw [readTree] at h
    cases hrun : (Lexeme.scan 0 s).foldlM next (operand [] .start) with
    | error err => rw [hrun] at h; cases h
    | ok s' =>
      rw [hrun] at h
      obtain ⟨sum, value, rfl, he⟩ := result_eq_ok_iff.mp h
      obtain ⟨body, trailing, hb, ht, hs⟩ := hstart.run blank_nil 0 s hrun
      cases hb with
      | operator hg hs' hv =>
        cases hg
        exact ⟨_, trailing, he ▸ hs'.joined hv, ht, by simpa using hs⟩
  · intro h
    exact h.readTree_eq position

theorem IsFormula.unique {s : List Char} {e e' : Expr} (h : IsFormula maxNesting s e)
    (h' : IsFormula maxNesting s e') : e = e' :=
  Except.ok.inj ((h.readTree_eq 0).symm.trans (h'.readTree_eq 0))

theorem utf8ByteSize_ofList (s : List Char) : (String.ofList s).utf8ByteSize = byteLength s := by
  induction s with
  | nil => rfl
  | cons c s ih =>
    rw [String.ofList_cons, String.utf8ByteSize_append, String.utf8ByteSize_singleton, ih, byteLength]

theorem byteLength_toList (text : String) : byteLength text.toList = text.utf8ByteSize := by
  rw [← utf8ByteSize_ofList, String.ofList_toList]

theorem accepts_iff (text : String) (e : Expr) :
    parse text = .ok e ↔ text.utf8ByteSize ≤ 4096 ∧ IsFormula 64 text.toList e := by
  rw [parse_eq, byteLength_toList]
  split
  · rename_i hb
    rw [readTree_eq_ok_iff]
    exact ⟨fun h => ⟨hb, h⟩, fun h => h.2⟩
  · rename_i hb
    constructor
    · intro h
      cases h
    · intro h
      exact absurd h.1 hb

end PhasePortrait
