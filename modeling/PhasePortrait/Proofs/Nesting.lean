import PhasePortrait.Proofs.Acceptance

/-! # Nesting of parentheses

How many parentheses are open at a place of a text is counted on its characters, without reading it as a
formula. Every phrase closes what it opens, so for a formula the greatest such number is the nesting that the
grammar speaks of, and after a text that can be completed it is the number of open groups.
-/
namespace PhasePortrait
open Reading Text

def openStep (n : Nat) (c : Char) : Nat := if c = '(' then n + 1 else if c = ')' then n - 1 else n

/-- The parentheses still open after the text, with `n` of them open before it. -/
def openAfter (n : Nat) (s : List Char) : Nat := s.foldl openStep n

/-- The greatest number of parentheses open at once within the text, with `n` of them open before it. -/
def deepest (n : Nat) : List Char → Nat
  | [] => n
  | c :: s => max n (deepest (openStep n c) s)

/-- The greatest number of parentheses open at once in a text. -/
def nesting (s : List Char) : Nat := deepest 0 s

@[simp] theorem openStep_opening (n : Nat) : openStep n '(' = n + 1 := rfl

@[simp] theorem openStep_closing (n : Nat) : openStep n ')' = n - 1 := rfl

@[simp] theorem openStep_symbol (n : Nat) (op : BinaryOp) : openStep n op.symbol = n := by
  cases op <;> rfl

@[simp] theorem openAfter_nil (n : Nat) : openAfter n [] = n := rfl

@[simp] theorem openAfter_cons (n : Nat) (c : Char) (s : List Char) :
    openAfter n (c :: s) = openAfter (openStep n c) s := rfl

@[simp] theorem openAfter_append (n : Nat) (s t : List Char) :
    openAfter n (s ++ t) = openAfter (openAfter n s) t := List.foldl_append

theorem le_deepest (n : Nat) (s : List Char) : n ≤ deepest n s := by
  cases s with
  | nil => exact Nat.le_refl n
  | cons c s => exact Nat.le_max_left _ _

@[simp] theorem deepest_nil (n : Nat) : deepest n [] = n := rfl

@[simp] theorem deepest_cons (n : Nat) (c : Char) (s : List Char) :
    deepest n (c :: s) = max n (deepest (openStep n c) s) := rfl

@[simp] theorem deepest_append (n : Nat) (s t : List Char) :
    deepest n (s ++ t) = max (deepest n s) (deepest (openAfter n s) t) := by
  induction s generalizing n with
  | nil => exact (Nat.max_eq_right (le_deepest n t)).symm
  | cons c s ih => rw [List.cons_append, deepest, ih, deepest, openAfter_cons, Nat.max_assoc]

theorem openAfter_le_deepest (n : Nat) (s : List Char) : openAfter n s ≤ deepest n s := by
  induction s generalizing n with
  | nil => exact Nat.le_refl n
  | cons c s ih => exact Nat.le_trans (ih _) (Nat.le_max_right _ _)

/-- Within the text at most `d` parentheses are open exactly if that is so after each part it begins with. -/
theorem deepest_le_iff {n d : Nat} {s : List Char} : deepest n s ≤ d ↔ ∀ t, t <+: s → openAfter n t ≤ d := by
  constructor
  · rintro h t ⟨u, rfl⟩
    rw [deepest_append] at h
    exact Nat.le_trans (openAfter_le_deepest n t) (Nat.le_trans (Nat.le_max_left _ _) h)
  · intro h
    induction s generalizing n with
    | nil => exact h [] List.nil_prefix
    | cons c s ih =>
      refine Nat.max_le.mpr ⟨h [] List.nil_prefix, ih ?_⟩
      intro t ht
      exact h (c :: t) ((List.prefix_cons_inj c).mpr ht)

/-! ## Texts without parentheses -/

def Flat (s : List Char) : Prop := ∀ c ∈ s, c ≠ '(' ∧ c ≠ ')'

theorem Flat.openAfter {s : List Char} (h : Flat s) (n : Nat) : openAfter n s = n := by
  induction s with
  | nil => rfl
  | cons c s ih =>
    obtain ⟨⟨ho, hc⟩, hs⟩ := List.forall_mem_cons.mp h
    rw [openAfter_cons, openStep, if_neg ho, if_neg hc, ih hs]

theorem Flat.deepest {s : List Char} (h : Flat s) (n : Nat) : deepest n s = n := by
  refine Nat.le_antisymm ?_ (le_deepest n s)
  rw [deepest_le_iff]
  rintro t ⟨u, rfl⟩
  exact Nat.le_of_eq (Flat.openAfter (fun c hc => h c (List.mem_append_left u hc)) n)

theorem Flat.deepest_le {s : List Char} (h : Flat s) (n d : Nat) : PhasePortrait.deepest n s ≤ n + d := by
  rw [h.deepest]
  exact Nat.le_add_right n d

theorem flat_of_forall {p : Char → Bool} {s : List Char} (hs : ∀ c ∈ s, p c = true) (ho : p '(' = false)
    (hc : p ')' = false) : Flat s := by
  intro c hmem
  constructor
  · rintro rfl
    exact absurd (hs _ hmem) (by simp [ho])
  · rintro rfl
    exact absurd (hs _ hmem) (by simp [hc])

theorem Blank.flat {w : List Char} (h : Blank w) : Flat w := flat_of_forall h (by decide) (by decide)

theorem Digits.flat {ds : List Char} (h : Digits ds) : Flat ds := flat_of_forall h.2 (by decide) (by decide)

theorem Variable.flat_name (v : Variable) : Flat v.name := by
  cases v <;> simp [Flat, name]

theorem Flat.append {s t : List Char} (hs : Flat s) (ht : Flat t) : Flat (s ++ t) := by
  intro c hc
  rcases List.mem_append.mp hc with hc | hc
  · exact hs c hc
  · exact ht c hc

theorem flat_decimal {w ds fs : List Char} (hw : Blank w) (hd : Digits ds) (hf : Digits fs) :
    Flat (w ++ ds ++ '.' :: fs) := by
  have hpoint : Flat ['.'] := by simp [Flat]
  exact (hw.flat.append hd.flat).append (hpoint.append hf.flat)

/-! ## Phrases -/

/-- A phrase closes every parenthesis that it opens. -/
theorem Derives.openAfter_eq {k : Phrase} {n : Nat} {s : List Char} {e : Expr} (h : Derives k n s e) (m : Nat) :
    openAfter m s = m := by
  induction h generalizing m with
  | ofTerm _ ih | ofFactor _ ih | ofPrimary _ ih => exact ih m
  | sum _ hw _ _ ihl ihr | product _ hw _ _ ihl ihr => simp [ihl, hw.flat.openAfter, ihr]
  | negate hw _ ih => simp [hw.flat.openAfter, openStep, ih]
  | group hw _ hw' ih => simp [hw.flat.openAfter, ih, hw'.flat.openAfter]
  | @«variable» n w v hw => exact (hw.flat.append v.flat_name).openAfter m
  | whole hw hd => exact (hw.flat.append hd.flat).openAfter m
  | decimal hw hd hf => exact (flat_decimal hw hd hf).openAfter m

section
variable {m : Nat} {s t w w' : List Char} (hw : Blank w)
include hw

theorem deepest_around (hs : openAfter m s = m) (op : BinaryOp) :
    deepest m (s ++ w ++ op.symbol :: t) = max (deepest m s) (deepest m t) := by
  have hle := le_deepest m t
  simp only [deepest_append, openAfter_append, deepest_cons, openStep_symbol, hs, hw.flat.openAfter,
    hw.flat.deepest]
  omega

theorem deepest_signed : deepest m (w ++ '-' :: s) = deepest m s := by
  have hle := le_deepest m s
  have hminus : openStep m '-' = m := rfl
  simp only [deepest_append, deepest_cons, hminus, hw.flat.openAfter, hw.flat.deepest]
  omega

theorem deepest_group (hs : openAfter (m + 1) s = m + 1) (hw' : Blank w') :
    deepest m (w ++ '(' :: s ++ w' ++ [')']) = deepest (m + 1) s := by
  have hle := le_deepest (m + 1) s
  simp only [deepest_append, openAfter_append, deepest_cons, openAfter_cons, openStep_opening, openStep_closing,
    deepest_nil, hs, hw.flat.openAfter, hw.flat.deepest, hw'.flat.openAfter, hw'.flat.deepest]
  omega

end

/-- No more parentheses are open at once in a phrase than its derivation allows for. -/
theorem Derives.deepest_le {k : Phrase} {n : Nat} {s : List Char} {e : Expr} (h : Derives k n s e) (m : Nat) :
    deepest m s ≤ m + n := by
  induction h generalizing m with
  | ofTerm _ ih | ofFactor _ ih | ofPrimary _ ih => exact ih m
  | sum hl hw _ _ ihl ihr | product hl hw _ _ ihl ihr =>
    rw [deepest_around hw (hl.openAfter_eq m)]
    exact Nat.max_le.mpr ⟨ihl m, ihr m⟩
  | negate hw _ ih =>
    rw [deepest_signed hw]
    exact ih m
  | group hw h hw' ih =>
    have hi := ih (m + 1)
    rw [deepest_group hw (h.openAfter_eq (m + 1)) hw']
    omega
  | @«variable» n w v hw => exact (hw.flat.append v.flat_name).deepest_le m _
  | whole hw hd => exact (hw.flat.append hd.flat).deepest_le m _
  | decimal hw hd hf => exact (flat_decimal hw hd hf).deepest_le m _

/-- A phrase has a derivation that allows for no more open parentheses than there are at once. -/
theorem Derives.of_deepest_le {k : Phrase} {n : Nat} {s : List Char} {e : Expr} (h : Derives k n s e) {m d : Nat}
    (hd : deepest m s ≤ m + d) : Derives k d s e := by
  induction h generalizing m d with
  | ofTerm _ ih => exact .ofTerm (ih hd)
  | ofFactor _ ih => exact .ofFactor (ih hd)
  | ofPrimary _ ih => exact .ofPrimary (ih hd)
  | sum hl hw hop _ ihl ihr =>
    rw [deepest_around hw (hl.openAfter_eq m)] at hd
    obtain ⟨hdl, hdr⟩ := Nat.max_le.mp hd
    exact .sum (ihl hdl) hw hop (ihr hdr)
  | product hl hw hop _ ihl ihr =>
    rw [deepest_around hw (hl.openAfter_eq m)] at hd
    obtain ⟨hdl, hdr⟩ := Nat.max_le.mp hd
    exact .product (ihl hdl) hw hop (ihr hdr)
  | negate hw _ ih =>
    rw [deepest_signed hw] at hd
    exact .negate hw (ih hd)
  | @group _ w s w' e hw h hw' ih =>
    rw [deepest_group hw (h.openAfter_eq (m + 1)) hw'] at hd
    have hle := le_deepest (m + 1) s
    obtain ⟨d, rfl⟩ : ∃ d', d = d' + 1 := ⟨d - 1, by omega⟩
    exact .group hw (ih (m := m + 1) (by omega)) hw'
  | «variable» hw => exact .variable hw
  | whole hw hds => exact .whole hw hds
  | decimal hw hds hf => exact .decimal hw hds hf

theorem isFormula_iff_nesting_le {n d : Nat} {s : List Char} {e : Expr} (h : IsFormula n s e) :
    IsFormula d s e ↔ nesting s ≤ d := by
  have hnesting {body trailing : List Char} {n : Nat} (hb : Derives .expression n body e) (ht : Blank trailing) :
      nesting (body ++ trailing) = deepest 0 body := by
    rw [nesting, deepest_append, hb.openAfter_eq, ht.flat.deepest]
    exact Nat.max_eq_left (le_deepest 0 body)
  constructor
  · rintro ⟨body, trailing, hb, ht, rfl⟩
    rw [hnesting hb ht, ← Nat.zero_add d]
    exact hb.deepest_le 0
  · obtain ⟨body, trailing, hb, ht, rfl⟩ := h
    intro hd
    rw [hnesting hb ht, ← Nat.zero_add d] at hd
    exact ⟨body, trailing, hb.of_deepest_le hd, ht, rfl⟩

/-! ## Texts that can be completed -/

/-- The number of groups open in a state. -/
def Reading.depth : Reading Expr → Nat
  | operand groups _ | operator groups _ _ => groups.length

theorem SumText.openAfter_eq {n : Nat} {sum : Option (Expr × BinaryOp)} {s : List Char} (h : SumText n sum s)
    (m : Nat) : openAfter m s = m := by
  cases h with
  | none => rfl
  | some hl hw hop => simp [hl.openAfter_eq, hw.flat.openAfter]

theorem ProductText.openAfter_eq {n : Nat} {product : Option (Expr × BinaryOp)} {s : List Char}
    (h : ProductText n product s) (m : Nat) : openAfter m s = m := by
  cases h with
  | none => rfl
  | some hl hw hop => simp [hl.openAfter_eq, hw.flat.openAfter]

theorem PendingText.openAfter_eq {n : Nat} {p : Pending Expr} {s : List Char} (h : PendingText n p s) (m : Nat) :
    openAfter m s = m := by
  cases h with
  | unsigned hs hp => rw [openAfter_append, hs.openAfter_eq, hp.openAfter_eq]
  | signed hs hp hw =>
    rw [openAfter_append, openAfter_append, openAfter_append, hs.openAfter_eq, hp.openAfter_eq, hw.flat.openAfter]
    rfl

theorem GroupsText.openAfter_eq {n : Nat} {groups : List (Pending Expr)} {s : List Char}
    (h : GroupsText n groups s) : openAfter 0 s = groups.length := by
  induction h with
  | nil => rfl
  | cons ho hp hw ih =>
    rw [openAfter_append, openAfter_append, openAfter_append, ih, hp.openAfter_eq, hw.flat.openAfter]
    rfl

/-- After the text that has been read as many parentheses are open as there are groups. -/
theorem ReadText.openAfter_eq {s : Reading Expr} {t : List Char} (h : ReadText s t) : openAfter 0 t = s.depth := by
  cases h with
  | operand hg hp => rw [openAfter_append, hg.openAfter_eq, hp.openAfter_eq, Reading.depth]
  | operator hg hs hv =>
    rw [openAfter_append, openAfter_append, hg.openAfter_eq, hs.openAfter_eq, hv.openAfter_eq, Reading.depth]

theorem ReadText.depth_le {s : Reading Expr} {t : List Char} (h : ReadText s t) : s.depth ≤ maxNesting := by
  cases h with
  | operand hg | operator hg =>
    have hlength := hg.length
    rw [Reading.depth]
    omega

end PhasePortrait
