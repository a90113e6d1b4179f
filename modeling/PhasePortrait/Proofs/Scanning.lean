import PhasePortrait.Proofs.Grammar

/-! # Where tokens end

White space and the symbols of the grammar are no part of a name or a number, so a token is read as
it stands wherever one of them follows or the text ends. What is read is made of the characters that
the grammar asks for.
-/
namespace PhasePortrait
namespace Text

/-- A character lies in no table whose ranges keep clear of those of its own. -/
theorem listed_eq_false_of_disjoint {s t : List (Nat × Nat)} {c : Char} (hc : listed s c = true)
    (h : ∀ r ∈ s, ∀ q ∈ t, r.2 < q.1 ∨ q.2 < r.1) : listed t c = false := by
  obtain ⟨r, hr, hlo, hhi⟩ := listed_eq_true_iff.mp hc
  rw [Bool.eq_false_iff]
  intro ht
  obtain ⟨q, hq, hlo', hhi'⟩ := listed_eq_true_iff.mp ht
  rcases h r hr q hq with h | h <;> omega

theorem isAlpha_iff_listed {c : Char} : c.isAlpha = true ↔ listed [(0x41, 0x5a), (0x61, 0x7a)] c = true := by
  change ((decide ('A'.val ≤ c.val ∧ c.val ≤ 'Z'.val) || ('a'.val ≤ c.val && c.val ≤ 'z'.val)) = true) ↔ _
  simp [listed, UInt32.le_iff_toNat_le]

theorem isDigit_iff_listed {c : Char} : c.isDigit = true ↔ listed [(0x30, 0x39)] c = true := by
  simp [Char.isDigit, listed, UInt32.le_iff_toNat_le]

theorem isAlphabetic_eq_false_of_isBlank {c : Char} (h : isBlank c = true) : isAlphabetic c = false := by
  have ht : listed alphabeticRanges c = false := listed_eq_false_of_disjoint h (by decide +kernel)
  have ha : listed [(0x41, 0x5a), (0x61, 0x7a)] c = false := listed_eq_false_of_disjoint h (by decide)
  have ha : c.isAlpha = false := by rw [Bool.eq_iff_iff, isAlpha_iff_listed, ha]
  rw [isAlphabetic, ht, ha, Bool.and_false, Bool.or_false]

theorem isNumeric_eq_false_of_isBlank {c : Char} (h : isBlank c = true) : isNumeric c = false := by
  have ht : listed numericRanges c = false := listed_eq_false_of_disjoint h (by decide +kernel)
  have hd : listed [(0x30, 0x39)] c = false := listed_eq_false_of_disjoint h (by decide)
  have hd : c.isDigit = false := by rw [Bool.eq_iff_iff, isDigit_iff_listed, hd]
  rw [isNumeric, ht, hd, Bool.and_false, Bool.or_false]

end Text
open Text

theorem isNamePart_of_isDigit {c : Char} (h : c.isDigit = true) : isNamePart c = true := by
  simp [isNamePart, isNumeric_of_isDigit h]

theorem isNamePart_eq_false_of_isBlank {c : Char} (h : isBlank c = true) : isNamePart c = false := by
  have hc : c ≠ '_' := by
    rintro rfl
    exact absurd h (by decide)
  simp [isNamePart, isAlphabetic_eq_false_of_isBlank h, isNumeric_eq_false_of_isBlank h, hc]

theorem isBlank_eq_false_of_isDigit {c : Char} (h : c.isDigit = true) : isBlank c = false :=
  listed_eq_false_of_disjoint (isDigit_iff_listed.mp h) (by decide)

/-- No name and no number in front of the text goes on into it. -/
def Stops (s : List Char) : Prop := ∀ c ∈ s.head?, isNamePart c = false ∧ c ≠ '.'

theorem stops_nil : Stops [] := by simp [Stops]

theorem stops_cons {c : Char} (hn : isNamePart c = false) (hp : c ≠ '.') (s : List Char) : Stops (c :: s) := by
  simp [Stops, hn, hp]

theorem Stops.of_blank {w s : List Char} (hw : Blank w) (hs : Stops s) : Stops (w ++ s) := by
  cases w with
  | nil => exact hs
  | cons c w =>
    have hc : isBlank c = true := hw c List.mem_cons_self
    apply stops_cons (isNamePart_eq_false_of_isBlank hc)
    rintro rfl
    exact absurd hc (by decide)

/-- The characters that the grammar uses as tokens by themselves. -/
def symbols : List Char := ['+', '-', '*', '/', '(', ')']

theorem symbol_classes : ∀ c ∈ symbols,
    (isBlank c = false ∧ c.isDigit = false ∧ isNameStart c = false) ∧ isNamePart c = false ∧ c ≠ '.' := by
  intro c hc
  simp only [symbols, List.mem_cons, List.not_mem_nil, or_false] at hc
  rcases hc with rfl | rfl | rfl | rfl | rfl | rfl <;> decide

theorem BinaryOp.symbol_mem (op : BinaryOp) : op.symbol ∈ symbols := by
  cases op <;> decide

theorem stops_symbol {w : List Char} {c : Char} (hw : Blank w) (hc : c ∈ symbols) (s : List Char) :
    Stops (w ++ c :: s) := by
  obtain ⟨-, hn, hp⟩ := symbol_classes c hc
  exact Stops.of_blank hw (stops_cons hn hp s)

theorem Stops.isNamePart_eq_false {s : List Char} (h : Stops s) : ∀ c ∈ s.head?, isNamePart c = false :=
  fun c hc => (h c hc).1

theorem Stops.isDigit_eq_false {s : List Char} (h : Stops s) : ∀ c ∈ s.head?, c.isDigit = false := by
  intro c hc
  rw [Bool.eq_false_iff]
  intro hd
  exact absurd (isNamePart_of_isDigit hd) (by simp [(h c hc).1])

theorem Stops.ne_point {s : List Char} (h : Stops s) : ∀ c ∈ s.head?, c ≠ '.' := fun c hc => (h c hc).2

/-! ## Reading one token -/

theorem takeWhile_append_of_head {p : Char → Bool} {s t : List Char} (hs : ∀ c ∈ s, p c = true)
    (ht : ∀ c ∈ t.head?, p c = false) :
    (s ++ t).takeWhile p = s ∧ (s ++ t).dropWhile p = t := by
  rw [List.takeWhile_append_of_pos hs, List.dropWhile_append_of_pos hs]
  cases t with
  | nil => simp
  | cons c t => simp [ht c rfl]

theorem head?_dropWhile {p : Char → Bool} {s : List Char} : ∀ c ∈ (s.dropWhile p).head?, p c = false := by
  intro c hc
  have h := List.head?_dropWhile_not p s
  rw [hc] at h
  exact h

theorem forall_mem_takeWhile {p : Char → Bool} {s : List Char} : ∀ c ∈ s.takeWhile p, p c = true :=
  List.all_eq_true.mp List.all_takeWhile

namespace Token

theorem read_symbol {c : Char} (hd : c.isDigit = false) (hn : isNameStart c = false) (rest : List Char) :
    read c rest = (symbol c, rest) := by
  simp [read, hd, hn]

theorem read_name {c : Char} {cs rest : List Char} (hd : c.isDigit = false) (hn : isNameStart c = true)
    (hs : ∀ d ∈ cs, isNamePart d = true) (hr : ∀ d ∈ rest.head?, isNamePart d = false) :
    read c (cs ++ rest) = (name c cs, rest) := by
  obtain ⟨ht, hdrop⟩ := takeWhile_append_of_head hs hr
  simp [read, hd, hn, ht, hdrop]

theorem read_whole {c : Char} {ds rest : List Char} (hd : ∀ d ∈ c :: ds, d.isDigit = true)
    (hr : ∀ d ∈ rest.head?, d.isDigit = false) (hp : ∀ d ∈ rest.head?, d ≠ '.') :
    read c (ds ++ rest) = (number c ds [], rest) := by
  obtain ⟨hc, hs⟩ := List.forall_mem_cons.mp hd
  obtain ⟨ht, hdrop⟩ := takeWhile_append_of_head hs hr
  rw [read, if_pos hc, readNumber, ht, hdrop]
  split
  · exact (hp _ rfl rfl).elim
  · rfl

theorem read_decimal {c f : Char} {ds fs rest : List Char} (hd : ∀ d ∈ c :: ds, d.isDigit = true)
    (hf : ∀ d ∈ f :: fs, d.isDigit = true) (hr : ∀ d ∈ rest.head?, d.isDigit = false) :
    read c (ds ++ '.' :: (f :: fs ++ rest)) = (number c ds (f :: fs), rest) := by
  obtain ⟨hc, hs⟩ := List.forall_mem_cons.mp hd
  have hp : ∀ d ∈ ('.' :: (f :: fs ++ rest)).head?, d.isDigit = false := by simp
  obtain ⟨ht, hdrop⟩ := takeWhile_append_of_head hs hp
  obtain ⟨hft, hfdrop⟩ := takeWhile_append_of_head hf hr
  rw [read, if_pos hc, readNumber, ht, hdrop]
  simp only [hft, hfdrop]

theorem read_unfinished {c : Char} {ds rest : List Char} (hd : ∀ d ∈ c :: ds, d.isDigit = true)
    (hr : ∀ d ∈ rest.head?, d.isDigit = false) :
    read c (ds ++ '.' :: rest) = (unfinished c ds rest.head?, rest) := by
  obtain ⟨hc, hs⟩ := List.forall_mem_cons.mp hd
  have hp : ∀ d ∈ ('.' :: rest).head?, d.isDigit = false := by simp
  obtain ⟨ht, hdrop⟩ := takeWhile_append_of_head hs hp
  have hnil : rest.takeWhile Char.isDigit = [] := (takeWhile_append_of_head (s := []) (by simp) hr).1
  rw [read, if_pos hc, readNumber, ht, hdrop]
  simp only [hnil]

/-- How a token is cut off: its characters, and what cannot follow it. -/
inductive Cut (c : Char) : List Char → Token → List Char → Prop
  | symbol {rest} (hd : c.isDigit = false) (hn : isNameStart c = false) : Cut c rest (symbol c) rest
  | name {cs rest} (hd : c.isDigit = false) (hn : isNameStart c = true) (hs : ∀ d ∈ cs, isNamePart d = true)
    (hr : ∀ d ∈ rest.head?, isNamePart d = false) : Cut c (cs ++ rest) (name c cs) rest
  | whole {ds rest} (hd : ∀ d ∈ c :: ds, d.isDigit = true) (hr : ∀ d ∈ rest.head?, d.isDigit = false)
    (hp : ∀ d ∈ rest.head?, d ≠ '.') : Cut c (ds ++ rest) (number c ds []) rest
  | decimal {ds f fs rest} (hd : ∀ d ∈ c :: ds, d.isDigit = true) (hf : ∀ d ∈ f :: fs, d.isDigit = true)
    (hr : ∀ d ∈ rest.head?, d.isDigit = false) :
    Cut c (ds ++ '.' :: (f :: fs ++ rest)) (number c ds (f :: fs)) rest
  | unfinished {ds rest} (hd : ∀ d ∈ c :: ds, d.isDigit = true) (hr : ∀ d ∈ rest.head?, d.isDigit = false) :
    Cut c (ds ++ '.' :: rest) (unfinished c ds rest.head?) rest

theorem cut_readNumber {c : Char} (hc : c.isDigit = true) (rest : List Char) :
    Cut c rest (readNumber c rest).1 (readNumber c rest).2 := by
  have hd : ∀ d ∈ c :: rest.takeWhile Char.isDigit, d.isDigit = true :=
    List.forall_mem_cons.mpr ⟨hc, forall_mem_takeWhile⟩
  have hr : ∀ d ∈ (rest.dropWhile Char.isDigit).head?, d.isDigit = false := head?_dropWhile
  have hrest := List.takeWhile_append_dropWhile (p := Char.isDigit) (l := rest)
  unfold readNumber
  generalize rest.takeWhile Char.isDigit = ds at hd hrest ⊢
  generalize rest.dropWhile Char.isDigit = tail at hr hrest ⊢
  subst hrest
  split
  · rename_i after
    have hf : ∀ d ∈ after.takeWhile Char.isDigit, d.isDigit = true := forall_mem_takeWhile
    have hr' : ∀ d ∈ (after.dropWhile Char.isDigit).head?, d.isDigit = false := head?_dropWhile
    have hafter := List.takeWhile_append_dropWhile (p := Char.isDigit) (l := after)
    split
    · rename_i hnil
      rw [hnil, List.nil_append] at hafter
      rw [hafter] at hr'
      exact .unfinished hd hr'
    · rename_i f fs hfs
      rw [hfs] at hf hafter
      have h := Cut.decimal hd hf hr'
      rwa [hafter] at h
  · rename_i hp
    refine .whole hd hr ?_
    rintro d hd rfl
    cases tail with
    | nil => cases hd
    | cons e tail =>
      cases hd
      exact hp tail rfl

theorem cut_read (c : Char) (rest : List Char) : Cut c rest (read c rest).1 (read c rest).2 := by
  unfold read
  split
  · rename_i hc
    exact cut_readNumber hc rest
  · rename_i hd
    rw [Bool.not_eq_true] at hd
    split
    · rename_i hn
      have hr : ∀ d ∈ (rest.dropWhile isNamePart).head?, isNamePart d = false := head?_dropWhile
      have h := Cut.name hd hn (forall_mem_takeWhile (s := rest)) hr
      rwa [List.takeWhile_append_dropWhile] at h
    · rename_i hn
      rw [Bool.not_eq_true] at hn
      exact .symbol hd hn

theorem Cut.read_eq {c : Char} {rest after : List Char} {token : Token} (h : Cut c rest token after) :
    read c rest = (token, after) := by
  cases h with
  | symbol hd hn => exact read_symbol hd hn rest
  | name hd hn hs hr => exact read_name hd hn hs hr
  | whole hd hr hp => exact read_whole hd hr hp
  | decimal hd hf hr => exact read_decimal hd hf hr
  | unfinished hd hr => exact read_unfinished hd hr

/-- The digits of a number are digits. -/
def AllDigits : Token → Prop
  | number c whole fraction => Digits (c :: whole) ∧ ∀ d ∈ fraction, d.isDigit = true
  | symbol _ | name _ _ | unfinished _ _ _ => True

theorem Cut.allDigits {c : Char} {rest after : List Char} {token : Token} (h : Cut c rest token after) :
    token.AllDigits := by
  cases h with
  | symbol | name | unfinished => trivial
  | whole hd => exact ⟨⟨List.cons_ne_nil _ _, hd⟩, by simp⟩
  | decimal hd hf => exact ⟨⟨List.cons_ne_nil _ _, hd⟩, hf⟩

theorem read_allDigits (c : Char) (rest : List Char) : (read c rest).1.AllDigits := (cut_read c rest).allDigits

end Token

/-! ## Scanning on -/

theorem scan_blank {w : List Char} (hw : Blank w) (position : Nat) (rest : List Char) :
    Lexeme.scan position (w ++ rest) = Lexeme.scan (position + byteLength w) rest := by
  induction w generalizing position with
  | nil => rfl
  | cons c w ih =>
    have hc : isBlank c = true := hw c List.mem_cons_self
    rw [List.cons_append, Lexeme.scan, if_pos hc, ih fun d hd => hw d (List.mem_cons_of_mem _ hd), byteLength,
      Nat.add_assoc]

theorem scan_read {c : Char} {rest after : List Char} {token : Token} (hc : isBlank c = false)
    (h : Token.read c rest = (token, after)) (position : Nat) :
    Lexeme.scan position (c :: rest) =
      ⟨position, token⟩ :: Lexeme.scan (position + byteLength token.text) after := by
  rw [Lexeme.scan, if_neg (by simp [hc]), h]

end PhasePortrait
