import Mathlib.Data.List.Basic
import PhasePortrait.Proofs.Scanning
import PhasePortrait.Text.Quoted

/-! # What quotation keeps

No written form of a character begins another one or the closing quote. So a quoted text can be told from what stands
behind it, and the text from its quotation.
-/
namespace PhasePortrait.Text

/-- A run of characters of one kind ends at the first one that is of another kind. -/
theorem append_cons_inj {p : Char → Bool} {s s' r r' : List Char} {c : Char} (hs : ∀ d ∈ s, p d = true)
    (hs' : ∀ d ∈ s', p d = true) (hc : p c = false) (h : s ++ c :: r = s' ++ c :: r') : s = s' ∧ r = r' := by
  have hstop (r : List Char) : ∀ d ∈ (c :: r).head?, p d = false := by simpa using hc
  have hruns : s = s' := by
    rw [← (takeWhile_append_of_head hs (hstop r)).1, h, (takeWhile_append_of_head hs' (hstop r')).1]
  rw [hruns, List.append_cancel_left_eq, List.cons_inj_right] at h
  exact ⟨hruns, h⟩

/-! ## Hexadecimal digits -/

theorem forall_mem_toDigits {p : Char → Prop} (h : ∀ k < 16, p (Nat.digitChar k)) (n : Nat) :
    ∀ c ∈ Nat.toDigits 16 n, p c := by
  induction n using Nat.strongRecOn with
  | ind n ih =>
    rw [Nat.toDigits_eq_if (by decide)]
    split
    · next hn => exact List.forall_mem_singleton.mpr (h n hn)
    · next hn =>
      have hlast := h (n % 16) (Nat.mod_lt n (by decide))
      exact List.forall_mem_append.mpr ⟨ih (n / 16) (by omega), List.forall_mem_singleton.mpr hlast⟩

theorem toDigits_inj {m n : Nat} (h : Nat.toDigits 16 m = Nat.toDigits 16 n) : m = n := by
  have hdigit : ∀ i < 16, ∀ j < 16, Nat.digitChar i = Nat.digitChar j → i = j := by decide
  induction m using Nat.strongRecOn generalizing n with
  | ind m ih =>
    rw [Nat.toDigits_eq_if (by decide), Nat.toDigits_eq_if (n := n) (by decide)] at h
    have hlonger (k : Nat) (d d' : Char) : [d] ≠ Nat.toDigits 16 k ++ [d'] := by
      intro he
      have hlength := congrArg List.length he
      have hpos := Nat.length_toDigits_pos (b := 16) (n := k)
      rw [List.length_append, List.length_singleton, List.length_singleton] at hlength
      omega
    split at h <;> split at h
    · next hm hn => exact hdigit m hm n hn (List.singleton_inj.mp h)
    · exact absurd h (hlonger _ _ _)
    · exact absurd h.symm (hlonger _ _ _)
    · obtain ⟨hfront, hlast⟩ := List.append_inj' h rfl
      have hquotient := ih (m / 16) (by omega) hfront
      have hrest := hdigit (m % 16) (by omega) (n % 16) (by omega) (List.singleton_inj.mp hlast)
      omega

/-! ## Characters -/

/-- The characters that a letter behind the backslash stands for. -/
def letters : List (Char × Char) :=
  [('"', '"'), ('\\', '\\'), ('\n', 'n'), ('\r', 'r'), ('\t', 't'), ('\x00', '0')]

theorem escape_cases (c : Char) :
    (c ≠ '"' ∧ c ≠ '\\' ∧ escape c = [c]) ∨ (∃ l, (c, l) ∈ letters ∧ escape c = ['\\', l]) ∨
      escape c = codeEscape c := by
  unfold escape
  split
  iterate 6
    refine .inr (.inl ⟨_, ?_, rfl⟩)
    decide
  · next hquote hbackslash _ _ _ _ =>
    split
    · exact .inr (.inr rfl)
    · exact .inl ⟨hquote, hbackslash, rfl⟩

theorem codeEscape_append_inj {c c' : Char} {r r' : List Char} (h : codeEscape c ++ r = codeEscape c' ++ r') :
    c = c' ∧ r = r' := by
  have hdigits (c : Char) : ∀ d ∈ Nat.toDigits 16 c.toNat, (d != '\x7d') = true :=
    forall_mem_toDigits (by decide) c.toNat
  have hcode : Nat.toDigits 16 c.toNat ++ '\x7d' :: r = Nat.toDigits 16 c'.toNat ++ '\x7d' :: r' := by
    simpa [codeEscape] using h
  obtain ⟨hcodes, hr⟩ := append_cons_inj (p := (· != '\x7d')) (hdigits c) (hdigits c') rfl hcode
  exact ⟨Char.toNat_inj.mp (toDigits_inj hcodes), hr⟩

theorem escape_append_inj {c c' : Char} {r r' : List Char} (h : escape c ++ r = escape c' ++ r') : c = c' ∧ r = r' := by
  have hletters : ∀ p ∈ letters, ∀ q ∈ letters, p.2 = q.2 → p.1 = q.1 := by decide
  have hcode : ∀ p ∈ letters, p.2 ≠ 'u' := by decide
  rcases escape_cases c with ⟨-, hc, he⟩ | ⟨l, hl, he⟩ | he <;>
    rcases escape_cases c' with ⟨-, hc', he'⟩ | ⟨l', hl', he'⟩ | he' <;> rw [he, he'] at h
  · exact List.cons.inj h
  · exact absurd (List.cons.inj h).1 hc
  · exact absurd (List.cons.inj h).1 hc
  · exact absurd (List.cons.inj h).1.symm hc'
  · obtain ⟨hll, hr⟩ := List.cons.inj (List.cons.inj h).2
    exact ⟨hletters _ hl _ hl' hll, hr⟩
  · exact absurd (List.cons.inj (List.cons.inj h).2).1 (hcode _ hl)
  · exact absurd (List.cons.inj h).1.symm hc'
  · exact absurd (List.cons.inj (List.cons.inj h).2).1.symm (hcode _ hl')
  · exact codeEscape_append_inj h

theorem escape_append_ne (c : Char) (r r' : List Char) : escape c ++ r ≠ '"' :: r' := by
  intro h
  rcases escape_cases c with ⟨hc, -, he⟩ | ⟨l, -, he⟩ | he <;> rw [he] at h
  · exact hc (List.cons.inj h).1
  · exact absurd (List.cons.inj h).1 (by decide)
  · exact absurd (List.cons.inj h).1 (by decide)

/-! ## Texts -/

theorem flatMap_escape_inj {s s' r r' : List Char} (h : s.flatMap escape ++ '"' :: r = s'.flatMap escape ++ '"' :: r') :
    s = s' ∧ r = r' := by
  induction s generalizing s' with
  | nil =>
    cases s' with
    | nil => exact ⟨rfl, (List.cons.inj h).2⟩
    | cons c' s' =>
      rw [List.flatMap_cons, List.append_assoc] at h
      exact absurd h.symm (escape_append_ne c' _ _)
  | cons c s ih =>
    cases s' with
    | nil =>
      rw [List.flatMap_cons, List.append_assoc] at h
      exact absurd h (escape_append_ne c _ _)
    | cons c' s' =>
      rw [List.flatMap_cons, List.flatMap_cons, List.append_assoc, List.append_assoc] at h
      obtain ⟨rfl, hrest⟩ := escape_append_inj h
      obtain ⟨rfl, hr⟩ := ih hrest
      exact ⟨rfl, hr⟩

/-- A quotation is told from what follows, and the text from its quotation. -/
theorem quoted_append_inj {s s' r r' : String} (h : quoted s ++ r = quoted s' ++ r') : s = s' ∧ r = r' := by
  have hlists := congrArg String.toList h
  simp only [quoted, String.toList_append, String.toList_ofList, List.append_assoc, List.cons_append, List.nil_append,
    List.cons.injEq, true_and] at hlists
  obtain ⟨hs, hr⟩ := flatMap_escape_inj hlists
  exact ⟨String.toList_inj.mp hs, String.toList_inj.mp hr⟩

theorem quoted_injective : Function.Injective quoted := by
  intro s s' h
  have happend : quoted s ++ "" = quoted s' ++ "" := by rw [h]
  exact (quoted_append_inj happend).1

end PhasePortrait.Text
