import Mathlib.Data.List.DropRight
import PhasePortrait.Proofs.Failure

/-! # Which trajectories survive

Where the limit is reached the oldest trajectories give way, be it to a new one or to a smaller limit, and
a limit that grows again brings none of them back. So what is stored at any time of a run is a matter of
counting: a trajectory is there as long as, each time the limit was looked at, it was among the newest ones
that the limit then allowed.
-/
namespace PhasePortrait

deriving instance DecidableEq for Portrait.Operation

namespace Portrait

/-! ## Runs -/

/-- The index that a successful addition returns. -/
def index? (p : Portrait) : Operation → Option Nat
  | .add initial => (p.add initial).result.toOption
  | .addAtPixel px py width height => (p.addAtPixel px py width height).result.toOption
  | .applyFormulas .. | .configure _ | .clear => none

/-- The initial point of what a successful addition adds, for a pixel the world point under it. -/
def added? (p : Portrait) (o : Operation) : Option (Point Float) :=
  match o with
  | .add initial => (p.index? o).map fun _ => initial
  | .addAtPixel px py width height => (p.index? o).map fun _ => p.settings.bounds.worldOfPixel px py width height
  | .applyFormulas .. | .configure _ | .clear => none

/-- The operation is a successful addition or a successful change of the settings. -/
def enforcesLimit (p : Portrait) (o : Operation) : Bool :=
  match o with
  | .configure s => (p.configure s).result.isOk
  | _ => (p.added? o).isSome

section
variable (start : Portrait) (ops : Nat → Operation)

/-- The portrait after the first `n` operations of a run. -/
def stage : Nat → Portrait
  | 0 => start
  | n + 1 => (stage n).perform (ops n)

/-- The initial point of the trajectory added at time `t`, if one is. -/
def addedAt? (t : Nat) : Option (Point Float) := (stage start ops t).added? (ops t)

/-- How many trajectories are added from time `t` on and before time `n`. -/
def additions (t n : Nat) : Nat := (List.range' t (n - t)).countP fun k => (addedAt? start ops k).isSome

/-- What happens at time `u` leaves a trajectory added at time `t`: nothing is cleared, and if the limit is
enforced it allows for all trajectories added since time `t`, that one included. -/
def Spares (t u : Nat) : Prop :=
  ops u ≠ .clear ∧
    ((stage start ops u).enforcesLimit (ops u) = true →
      additions start ops t (u + 1) ≤ (stage start ops (u + 1)).settings.maxTrajectories.toNat)

/-- A trajectory added at time `t` is left by all that happens after it and before time `n`. -/
def Survives (t n : Nat) : Prop := ∀ u < n, t < u → Spares start ops t u

instance (t u : Nat) : Decidable (Spares start ops t u) := instDecidableAnd

instance (t n : Nat) : Decidable (Survives start ops t n) :=
  inferInstanceAs (Decidable (∀ u < n, t < u → Spares start ops t u))

end

/-! ## One operation -/

section
variable {p : Portrait} {o : Operation} {initial : Point Float}

theorem addAtPixel_of_pos {px py width height : Float} (hw : 0 < width ∧ 0 < height) :
    p.addAtPixel px py width height =
      let o := p.add (p.settings.bounds.worldOfPixel px py width height)
      ⟨o.result.mapError .fieldFailed, o.portrait, o.events⟩ := if_pos hw

theorem addAtPixel_of_not_pos {px py width height : Float} (hw : ¬(0 < width ∧ 0 < height)) :
    p.addAtPixel px py width height = ⟨.error (.emptyWindow width height), p, []⟩ := if_neg hw

theorem toOption_eq_some_iff {ε γ : Type} {x : Except ε γ} {v : γ} : x.toOption = some v ↔ x = .ok v := by
  constructor
  · exact eq_ok_of_toOption
  · rintro rfl
    rfl

theorem perform_of_index? {index : Nat} (ho : p.index? o = some index) :
    ∃ initial, p.added? o = some initial ∧ p.perform o = (p.add initial).portrait ∧
      (p.add initial).result = .ok index := by
  cases o with
  | applyFormulas | configure | clear => cases ho
  | add initial => exact ⟨initial, by rw [added?, ho]; rfl, rfl, toOption_eq_some_iff.mp ho⟩
  | addAtPixel px py width height =>
    refine ⟨_, by rw [added?, ho]; rfl, ?_⟩
    rw [index?, toOption_eq_some_iff] at ho
    rw [perform]
    by_cases hw : 0 < width ∧ 0 < height
    · rw [addAtPixel_of_pos hw] at ho ⊢
      exact ⟨rfl, mapError_eq_ok_iff.mp ho⟩
    · rw [addAtPixel_of_not_pos hw] at ho
      cases ho

theorem perform_of_added? (ho : p.added? o = some initial) :
    ∃ index, p.index? o = some index ∧ p.perform o = (p.add initial).portrait ∧
      (p.add initial).result = .ok index := by
  cases hi : p.index? o with
  | none => cases o <;> simp [added?, hi] at ho
  | some index =>
    obtain ⟨initial', ha, hp⟩ := perform_of_index? hi
    cases ho.symm.trans ha
    exact ⟨index, rfl, hp⟩

theorem length_initials (p : Portrait) : p.initials.length = p.count := List.length_map _

variable (h : p.Coherent)
include h

theorem initials_add (initial : Point Float) :
    (p.add initial).portrait.initials = (p.initials ++ [initial]).rtake p.settings.maxTrajectories.toNat := by
  have hpos := Settings.maxTrajectories_pos h.settings
  obtain ⟨m, hm⟩ : ∃ m, p.settings.maxTrajectories.toNat = m + 1 := ⟨_, (Nat.succ_pred_eq_of_pos hpos).symm⟩
  rw [add_of_compile h.code, hm, List.rtake_concat_succ]
  simp [initials, count, List.rtake, FormulaPair.traced]

theorem count_add_pos (initial : Point Float) : 0 < (p.add initial).portrait.count := by
  rw [add_of_compile h.code]
  simp [count]

theorem added?_add (initial : Point Float) : p.added? (.add initial) = some initial := by
  rw [added?, index?, result_add h.code]
  rfl

theorem added?_addAtPixel {px py width height : Float} (hw : 0 < width ∧ 0 < height) :
    p.added? (.addAtPixel px py width height) = some (p.settings.bounds.worldOfPixel px py width height) := by
  rw [added?, index?, addAtPixel_of_pos hw]
  dsimp only
  rw [result_add h.code]
  rfl

theorem initials_configure {s : Settings} (hs : s.check = .ok ()) :
    (p.configure s).portrait.initials = p.initials.rtake s.maxTrajectories.toNat := by
  rw [configure_of_ok h.code hs, initials, FormulaPair.map_initial_traced, List.rtake, length_initials]

/-- What an operation does to the stored trajectories: it empties them, or it keeps the newest ones that the
limit allows, a new one among them, or it leaves them as they are. -/
theorem initials_perform (o : Operation) :
    (o = .clear ∧ p.added? o = none ∧ (p.perform o).initials = []) ∨
    (o ≠ .clear ∧ p.enforcesLimit o = true ∧
      (p.perform o).initials =
        (p.initials ++ (p.added? o).toList).rtake (p.perform o).settings.maxTrajectories.toNat) ∨
    (o ≠ .clear ∧ p.enforcesLimit o = false ∧ p.added? o = none ∧ (p.perform o).initials = p.initials) := by
  cases ha : p.added? o with
  | some initial =>
    obtain ⟨index, -, hp, -⟩ := perform_of_added? ha
    refine .inr (.inl ⟨?_, ?_, ?_⟩)
    · rintro rfl
      cases ha
    · cases o with
      | configure s => cases ha
      | applyFormulas | add | addAtPixel | clear => exact congrArg Option.isSome ha
    · have hs : (p.add initial).portrait.settings = p.settings := by rw [add_of_compile h.code]
      rw [hp, hs]
      exact initials_add h initial
  | none =>
    cases o with
    | applyFormulas dx dy =>
      exact .inr (.inr ⟨by simp, rfl, rfl, p.initials_applyFormulas dx dy⟩)
    | configure s =>
      cases hs : s.check with
      | error e =>
        refine .inr (.inr ⟨by simp, ?_, rfl, ?_⟩)
        · rw [enforcesLimit, configure_of_error hs]
          rfl
        · rw [perform, configure_of_error hs]
      | ok u =>
        refine .inr (.inl ⟨by simp, ?_, ?_⟩)
        · rw [enforcesLimit, configure_of_ok h.code hs]
          rfl
        · have hsettings : (p.configure s).portrait.settings = s := by rw [configure_of_ok h.code hs]
          rw [perform, hsettings, initials_configure h hs]
          simp
    | add initial =>
      rw [added?_add h] at ha
      cases ha
    | addAtPixel px py width height =>
      have hw : ¬(0 < width ∧ 0 < height) := by
        intro hw
        rw [added?_addAtPixel h hw] at ha
        cases ha
      exact .inr (.inr ⟨by simp, congrArg Option.isSome ha, rfl, by rw [perform, addAtPixel_of_not_pos hw]⟩)
    | clear => exact .inl ⟨rfl, rfl, rfl⟩

end

/-! ## Counting along a run -/

section
variable (start : Portrait) (ops : Nat → Operation) {t n : Nat}

theorem additions_succ (ht : t ≤ n) :
    additions start ops t (n + 1) = additions start ops t n + (addedAt? start ops n).toList.length := by
  rw [additions, Nat.succ_sub ht, List.range'_1_concat, List.countP_append, Nat.add_sub_cancel' ht, ← additions]
  cases ha : addedAt? start ops n <;> simp [ha]

theorem additions_self : additions start ops n n = 0 := by
  rw [additions, Nat.sub_self]
  rfl

theorem additions_pos {initial : Point Float} (ht : t < n) (ha : addedAt? start ops t = some initial) :
    0 < additions start ops t n := by
  rw [additions, List.countP_pos_iff]
  exact ⟨t, by rw [List.mem_range'_1]; omega, by rw [ha]; rfl⟩

theorem filterMap_range_succ {α : Type} (f : Nat → Option α) (n : Nat) :
    (List.range (n + 1)).filterMap f = (List.range n).filterMap f ++ (f n).toList := by
  rw [List.range_succ, List.filterMap_append]
  cases h : f n <;> simp [h]

/-- Of all additions the newest `c` are those that with all later ones are no more than `c`. -/
theorem rtake_additions (n c : Nat) :
    ((List.range n).filterMap (addedAt? start ops)).rtake c =
      (List.range n).filterMap fun t => if additions start ops t n ≤ c then addedAt? start ops t else none := by
  induction n generalizing c with
  | zero => simp [List.rtake]
  | succ n ih =>
    have hlast := additions_succ start ops (Nat.le_refl n)
    have hsucc (t : Nat) (ht : t ∈ List.range n) := additions_succ start ops (List.mem_range.mp ht).le
    rw [filterMap_range_succ, filterMap_range_succ, hlast, additions_self]
    cases ha : addedAt? start ops n with
    | none =>
      rw [ha] at hsucc
      rw [ite_self, Option.toList_none, List.append_nil, List.append_nil, ih]
      apply List.filterMap_congr
      intro t ht
      rw [hsucc t ht]
      rfl
    | some initial =>
      rw [ha] at hsucc
      cases c with
      | zero =>
        rw [List.rtake_zero, eq_comm, List.append_eq_nil_iff]
        refine ⟨List.filterMap_eq_nil_iff.mpr ?_, rfl⟩
        intro t ht
        exact if_neg (by rw [hsucc t ht]; exact Nat.not_succ_le_zero _)
      | succ c =>
        have hfits : 0 + (some initial).toList.length ≤ c + 1 := Nat.succ_le_succ c.zero_le
        rw [if_pos hfits, Option.toList_some, List.rtake_concat_succ, ih]
        congr 1
        apply List.filterMap_congr
        intro t ht
        rw [hsucc t ht]
        simp

theorem survives_succ (ht : t < n) :
    Survives start ops t (n + 1) ↔ Survives start ops t n ∧ Spares start ops t n := by
  constructor
  · intro h
    exact ⟨fun u hu => h u (hu.trans n.lt_succ_self), h n n.lt_succ_self ht⟩
  · rintro ⟨h, hn⟩ u hu htu
    rcases Nat.lt_succ_iff_lt_or_eq.mp hu with hu | rfl
    · exact h u hu htu
    · exact hn

end

section
variable {start : Portrait} (h : start.Coherent) (ops : Nat → Operation)
include h

theorem coherent_stage (n : Nat) : (stage start ops n).Coherent := by
  induction n with
  | zero => exact h
  | succ n ih => exact ih.perform (ops n)

/-- What is stored is the end of the list of all additions. -/
theorem initials_stage_suffix (hs : start.trajectories = []) (n : Nat) :
    (stage start ops n).initials <:+ (List.range n).filterMap (addedAt? start ops) := by
  induction n with
  | zero => simp [stage, initials, hs]
  | succ n ih =>
    have happend : (stage start ops n).initials ++ (addedAt? start ops n).toList <:+
        (List.range (n + 1)).filterMap (addedAt? start ops) := by
      obtain ⟨older, ho⟩ := ih
      exact ⟨older, by rw [filterMap_range_succ, ← ho, List.append_assoc]⟩
    rw [stage]
    rcases initials_perform (coherent_stage h ops n) (ops n) with ⟨-, -, hi⟩ | ⟨-, -, hi⟩ | ⟨-, -, ha, hi⟩
    · rw [hi]
      exact List.nil_suffix
    · rw [hi]
      exact (List.drop_suffix _ _).trans happend
    · rw [hi]
      rw [addedAt?, ha, Option.toList_none, List.append_nil] at happend
      exact happend

/-- An operation spares a trajectory among the stored ones exactly if that still is one of them after it. -/
theorem spares_iff {t n : Nat} {initial : Point Float} (ht : t < n) (ha : addedAt? start ops t = some initial) :
    additions start ops t n ≤ (stage start ops n).count ∧ Spares start ops t n ↔
      additions start ops t (n + 1) ≤ (stage start ops (n + 1)).count := by
  have hpos := additions_pos start ops ht ha
  have hsucc := additions_succ start ops ht.le
  rw [Spares, ← length_initials, ← length_initials]
  rcases initials_perform (coherent_stage h ops n) (ops n) with ⟨hc, -, hi⟩ | ⟨hc, he, hi⟩ | ⟨hc, he, hn, hi⟩
  · rw [stage, hi, List.length_nil]
    constructor
    · rintro ⟨-, hne, -⟩
      exact absurd hc hne
    · omega
  · have hlength : (stage start ops (n + 1)).initials.length =
        min ((stage start ops n).initials.length + (addedAt? start ops n).toList.length)
          (stage start ops (n + 1)).settings.maxTrajectories.toNat := by
      rw [stage, hi, List.rtake, List.length_drop, List.length_append, addedAt?]
      omega
    rw [hlength]
    simp only [hc, he, ne_eq, not_false_eq_true, true_and, true_implies]
    omega
  · have hnone : (addedAt? start ops n).toList = [] := by rw [addedAt?, hn]; rfl
    rw [stage, hi, hsucc, hnone]
    simp [hc, he]

/-- A trajectory survives exactly as long as no more have been added since than are stored. -/
theorem survives_iff {t n : Nat} {initial : Point Float} (ht : t < n) (ha : addedAt? start ops t = some initial) :
    Survives start ops t n ↔ additions start ops t n ≤ (stage start ops n).count := by
  induction n with
  | zero => omega
  | succ n ih =>
    rcases Nat.lt_succ_iff_lt_or_eq.mp ht with ht | rfl
    · rw [survives_succ start ops ht, ih ht, spares_iff h ops ht ha]
    · obtain ⟨index, -, hp, -⟩ := perform_of_added? ha
      have hpos := count_add_pos (coherent_stage h ops t) initial
      rw [← hp, ← stage] at hpos
      rw [additions_succ start ops le_rfl, additions_self, ha]
      constructor
      · intro _
        rw [Nat.zero_add]
        exact hpos
      · intro _ u hu htu
        omega

end

/-- At any time of a run from a new portrait the stored trajectories go, in the order in which they were
added, through the initial points of all that survive. A successful addition returns the last index, and
the trajectory at this index is the one that it has traced. -/
theorem stored_eq_survivors {s : Settings} {dx dy : String} {start : Portrait} (h : create s dx dy = .ok start)
    (ops : Nat → Operation) (n : Nat) :
    (stage start ops n).initials =
      ((List.range n).filterMap fun t => if Survives start ops t n then addedAt? start ops t else none) ∧
    ∀ index, (stage start ops n).index? (ops n) = some index →
      index + 1 = (stage start ops (n + 1)).count ∧
      ∃ t, (stage start ops (n + 1)).trajectory? index = some t ∧ addedAt? start ops n = some t.initial ∧
        CodePair.answer ((stage start ops n).code.traceFrom (stage start ops n).settings t.initial) = .ok t := by
  have hstart := Coherent.create h
  have hempty : start.trajectories = [] := by
    obtain ⟨f, -, -, rfl⟩ := create_eq_ok_iff.mp h
    rfl
  constructor
  · have hsuffix := List.suffix_iff_eq_drop.mp (initials_stage_suffix hstart ops hempty n)
    rw [hsuffix, length_initials]
    refine (rtake_additions start ops n (stage start ops n).count).trans ?_
    apply List.filterMap_congr
    intro t ht
    cases ha : addedAt? start ops t with
    | none => simp
    | some initial => simp only [survives_iff hstart ops (List.mem_range.mp ht) ha]
  · intro index hi
    obtain ⟨initial, ha, hp, hr⟩ := perform_of_index? hi
    have hc := (coherent_stage hstart ops n).code
    rw [result_add hc] at hr
    cases hr
    rw [stage, hp, add_of_compile hc]
    refine ⟨by simp [count], (stage start ops n).formulas.traced (stage start ops n).settings initial,
      by simp [trajectory?], ha, ?_⟩
    rw [hc]
    exact FormulaPair.answer_traceFrom ..

theorem stored_eq_survivors_shrunk :
    let s := { Settings.standard with timeStep := 1, halfSteps := 1, maxTrajectories := 2 }
    let start : Portrait :=
      ⟨s, ⟨⟨"y", .var .y⟩, ⟨"-x", .negate (.var .x)⟩⟩, ⟨[.fetch .y], [.fetch .x, .negate]⟩, []⟩
    let ops (t : Nat) : Operation := [.add ⟨0, 0⟩, .add ⟨1, 0⟩, .add ⟨2, 0⟩,
      .configure { s with maxTrajectories := 1 }, .configure { s with maxTrajectories := 3 },
      .addAtPixel 400 300 800 600, .addAtPixel 1 1 (0 / 0) 600, .applyFormulas "x+" "y"].getD t .clear
    Portrait.create s "y" "-x" = .ok start ∧
    (stage start ops 8).initials = [⟨2, 0⟩, ⟨0, 0⟩] ∧
    (stage start ops 5).index? (ops 5) = some 1 ∧ 1 + 1 = (stage start ops 6).count := by
  intro s start ops
  have hstart : Portrait.create s "y" "-x" = .ok start := by decide +kernel
  have hindex : (stage start ops 5).index? (ops 5) = some 1 := by decide +kernel
  have hsurvivors := (stored_eq_survivors hstart ops 8).1
  refine ⟨hstart, hsurvivors.trans (by decide +kernel), hindex, ?_⟩
  exact ((stored_eq_survivors hstart ops 5).2 1 hindex).1

end Portrait
end PhasePortrait
