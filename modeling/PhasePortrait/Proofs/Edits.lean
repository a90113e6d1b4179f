import PhasePortrait.Proofs.Survival

/-! # Edits leave no residue

A portrait in which everything belongs together is made of its settings, its formulas and its initial points.
The formulas have no part in what an operation does to the settings and to the initial points, and nothing
stored outlives them. So new formulas may come before or after any other operation, and an edit that keeps
all initial points is undone by the edit back.
-/
namespace PhasePortrait.Portrait

/-- What an operation returns: an error, or the index of the trajectory that it has added, if it adds one. -/
def result (p : Portrait) : Operation → Except PortraitError (Option Nat)
  | .applyFormulas dx dy => ((p.applyFormulas dx dy).result.mapError .invalidFormulas).map fun _ => none
  | .configure s => (p.configure s).result.map fun _ => none
  | .add initial => ((p.add initial).result.mapError .fieldFailed).map some
  | .addAtPixel px py width height => (p.addAtPixel px py width height).result.map some
  | .clear => .ok none

/-- Every operation but new formulas. -/
def Operation.KeepsFormulas : Operation → Prop
  | .applyFormulas .. => False
  | .configure _ | .add _ | .addAtPixel .. | .clear => True

/-- The portraits differ at most in their formulas and in what is traced with them. -/
structure Akin (p q : Portrait) : Prop where
  settings : p.settings = q.settings
  initials : p.initials = q.initials

section
variable {p q : Portrait}

/-! ## What a portrait is made of -/

theorem Coherent.trajectories_eq (h : p.Coherent) :
    p.trajectories = p.initials.map (p.formulas.traced p.settings) := by
  rw [Portrait.initials, List.map_map]
  conv_lhs => rw [← List.map_id p.trajectories]
  exact List.map_congr_left h.traced

theorem Akin.eq_of_formulas (h : p.Akin q) (hp : p.Coherent) (hq : q.Coherent) (hf : p.formulas = q.formulas) :
    p = q := by
  have hcode : p.code = q.code := by rw [hp.code, hq.code, hf]
  have htrajectories : p.trajectories = q.trajectories := by
    rw [hp.trajectories_eq, hq.trajectories_eq, h.settings, h.initials, hf]
  calc p = ⟨p.settings, p.formulas, p.code, p.trajectories⟩ := rfl
    _ = ⟨q.settings, q.formulas, q.code, q.trajectories⟩ := by rw [h.settings, hf, hcode, htrajectories]
    _ = q := rfl

theorem akin_applyFormulas (p : Portrait) (dx dy : String) : (p.perform (.applyFormulas dx dy)).Akin p :=
  ⟨p.settings_applyFormulas dx dy, p.initials_applyFormulas dx dy⟩

theorem Akin.symm (h : p.Akin q) : q.Akin p := ⟨h.settings.symm, h.initials.symm⟩

theorem Akin.trans {r : Portrait} (h : p.Akin q) (h' : q.Akin r) : p.Akin r :=
  ⟨h.settings.trans h'.settings, h.initials.trans h'.initials⟩

/-! ## The same operation on two portraits -/

theorem Akin.count_eq (h : p.Akin q) : p.count = q.count := by
  rw [← length_initials, ← length_initials, h.initials]

section
variable (h : p.Akin q) (hp : p.Coherent) (hq : q.Coherent)
include h hp hq

theorem Akin.add (initial : Point Float) :
    (p.add initial).result = (q.add initial).result ∧ (p.add initial).portrait.Akin (q.add initial).portrait := by
  refine ⟨?_, ?_, ?_⟩
  · rw [result_add hp.code, result_add hq.code, List.length_drop, List.length_drop]
    change Except.ok (p.count - _) = Except.ok (q.count - _)
    rw [h.count_eq, h.settings]
  · rw [add_of_compile hp.code, add_of_compile hq.code]
    exact h.settings
  · rw [initials_add hp, initials_add hq, h.initials, h.settings]

theorem Akin.configure (s : Settings) :
    (p.configure s).result = (q.configure s).result ∧ (p.configure s).portrait.Akin (q.configure s).portrait := by
  rw [result_configure hp.code, result_configure hq.code]
  refine ⟨rfl, ?_⟩
  cases hs : s.check with
  | error e =>
    rw [configure_of_error hs, configure_of_error hs]
    exact h
  | ok u =>
    refine ⟨?_, by rw [initials_configure hp hs, initials_configure hq hs, h.initials]⟩
    rw [configure_of_ok hp.code hs, configure_of_ok hq.code hs]

theorem Akin.addAtPixel (px py width height : Float) :
    (p.addAtPixel px py width height).result = (q.addAtPixel px py width height).result ∧
      (p.addAtPixel px py width height).portrait.Akin (q.addAtPixel px py width height).portrait := by
  by_cases hw : 0 < width ∧ 0 < height
  · obtain ⟨hresult, hakin⟩ := h.add hp hq (p.settings.bounds.worldOfPixel px py width height)
    rw [addAtPixel_of_pos hw, addAtPixel_of_pos hw, ← h.settings]
    dsimp only
    rw [hresult]
    exact ⟨rfl, hakin⟩
  · rw [addAtPixel_of_not_pos hw, addAtPixel_of_not_pos hw]
    exact ⟨rfl, h⟩

/-- The formulas have no part in the result of an operation, nor in the settings and the initial points
after it. -/
theorem Akin.perform (o : Operation) : p.result o = q.result o ∧ (p.perform o).Akin (q.perform o) := by
  cases o with
  | applyFormulas dx dy =>
    refine ⟨?_, (p.akin_applyFormulas dx dy).trans (h.trans (q.akin_applyFormulas dx dy).symm)⟩
    rw [result, result, result_applyFormulas, result_applyFormulas]
  | configure s =>
    obtain ⟨hresult, hakin⟩ := h.configure hp hq s
    exact ⟨by rw [result, result, hresult], hakin⟩
  | add initial =>
    obtain ⟨hresult, hakin⟩ := h.add hp hq initial
    exact ⟨by rw [result, result, hresult], hakin⟩
  | addAtPixel px py width height =>
    obtain ⟨hresult, hakin⟩ := h.addAtPixel hp hq px py width height
    exact ⟨by rw [result, result, hresult], hakin⟩
  | clear => exact ⟨rfl, h.settings, rfl⟩

end

/-! ## New formulas and other operations -/

theorem formulas_perform (h : p.Coherent) {o : Operation} (ho : o.KeepsFormulas) :
    (p.perform o).formulas = p.formulas := by
  have hadd (initial : Point Float) : (p.add initial).portrait.formulas = p.formulas := by
    rw [add_of_compile h.code]
  cases o with
  | applyFormulas => exact ho.elim
  | configure s =>
    rw [perform]
    cases hs : s.check with
    | error e => rw [configure_of_error hs]
    | ok u => rw [configure_of_ok h.code hs]
  | add initial => exact hadd initial
  | addAtPixel px py width height =>
    rw [perform]
    by_cases hw : 0 < width ∧ 0 < height
    · rw [addAtPixel_of_pos hw]
      exact hadd _
    · rw [addAtPixel_of_not_pos hw]
  | clear => rfl

theorem formulas_applyFormulas {dx dy : String} {f : FormulaPair} (hf : FormulaPair.ofTexts dx dy = .ok f)
    (p : Portrait) : (p.perform (.applyFormulas dx dy)).formulas = f := by
  rw [perform, applyFormulas_of_ok hf]

theorem applyFormulas_comm (h : p.Coherent) {dx dy : String} {f : FormulaPair}
    (hf : FormulaPair.ofTexts dx dy = .ok f) {o : Operation} (ho : o.KeepsFormulas) :
    (p.perform (.applyFormulas dx dy)).perform o = (p.perform o).perform (.applyFormulas dx dy) ∧
      (p.perform (.applyFormulas dx dy)).result o = p.result o := by
  have hedit := h.perform (.applyFormulas dx dy)
  have hafter := (h.perform o).perform (.applyFormulas dx dy)
  obtain ⟨hresult, hakin⟩ := (p.akin_applyFormulas dx dy).perform hedit h o
  refine ⟨?_, hresult⟩
  refine (hakin.trans ((p.perform o).akin_applyFormulas dx dy).symm).eq_of_formulas (hedit.perform o) hafter ?_
  rw [formulas_perform hedit ho, formulas_applyFormulas hf, formulas_applyFormulas hf]

/-! ## Undoing an edit -/

theorem applyFormulas_undo (h : p.Coherent) (dx dy : String) :
    (p.perform (.applyFormulas dx dy)).perform (.applyFormulas p.formulas.dx.text p.formulas.dy.text) = p := by
  have hback := akin_applyFormulas (p.perform (.applyFormulas dx dy)) p.formulas.dx.text p.formulas.dy.text
  refine (hback.trans (p.akin_applyFormulas dx dy)).eq_of_formulas ((h.perform _).perform _) h ?_
  exact formulas_applyFormulas h.formulas _

theorem configure_undo (h : p.Coherent) {s : Settings} (hs : s.check = .ok ())
    (hcount : p.count ≤ s.maxTrajectories.toNat) :
    (p.perform (.configure s)).perform (.configure p.settings) = p := by
  have hedit := h.perform (.configure s)
  have hback := hedit.perform (.configure p.settings)
  have hsettings : ((p.perform (.configure s)).perform (.configure p.settings)).settings = p.settings := by
    rw [perform, configure_of_ok hedit.code h.settings]
  -- neither limit is below the number of initial points
  have hkept {n : Nat} (hn : p.count ≤ n) : p.initials.rtake n = p.initials := by
    rw [List.rtake, length_initials, Nat.sub_eq_zero_of_le hn, List.drop_zero]
  have hinitials : ((p.perform (.configure s)).perform (.configure p.settings)).initials = p.initials := by
    rw [perform, initials_configure hedit h.settings, perform, initials_configure h hs, hkept hcount,
      hkept h.count_le]
  refine Akin.eq_of_formulas ⟨hsettings, hinitials⟩ hback h ?_
  have hkeeps (s : Settings) : (Operation.configure s).KeepsFormulas := trivial
  rw [formulas_perform hedit (hkeeps _), formulas_perform h (hkeeps _)]

end

/-- New formulas that are accepted replace the old ones before or after any other operation, which ends in the
same way, and both orders reach the same portrait. Going back to the former formulas restores the portrait,
and so does going back to the former settings from others that allow for all of its trajectories. -/
theorem Reachable.edits_commute_and_undo {p : Portrait} (h : Reachable p) {dx dy : String} {ex ey : Expr}
    (hx : parse dx = .ok ex) (hy : parse dy = .ok ey) :
    (∀ q : Portrait, q.result (.applyFormulas dx dy) = .ok none ∧
      (q.perform (.applyFormulas dx dy)).formulas = ⟨⟨dx, ex⟩, ⟨dy, ey⟩⟩) ∧
    (∀ o : Operation, o.KeepsFormulas →
      (p.perform (.applyFormulas dx dy)).perform o = (p.perform o).perform (.applyFormulas dx dy) ∧
      (p.perform (.applyFormulas dx dy)).result o = p.result o) ∧
    (p.perform (.applyFormulas dx dy)).perform (.applyFormulas p.formulas.dx.text p.formulas.dy.text) = p ∧
    ∀ s : Settings, s.check = .ok () → p.count ≤ s.maxTrajectories.toNat →
      p.result (.configure s) = .ok none ∧ (p.perform (.configure s)).settings = s ∧
      (p.perform (.configure s)).perform (.configure p.settings) = p := by
  have hp := h.coherent
  have hf : FormulaPair.ofTexts dx dy = .ok ⟨⟨dx, ex⟩, ⟨dy, ey⟩⟩ :=
    FormulaPair.ofTexts_eq_ok_iff.mpr ⟨Formula.ofText_eq_ok_iff.mpr ⟨rfl, hx⟩, Formula.ofText_eq_ok_iff.mpr ⟨rfl, hy⟩⟩
  refine ⟨?_, fun o => applyFormulas_comm hp hf, applyFormulas_undo hp dx dy, ?_⟩
  · intro q
    refine ⟨?_, formulas_applyFormulas hf q⟩
    rw [Portrait.result, result_applyFormulas, hf]
    rfl
  · intro s hs hcount
    refine ⟨?_, ?_, configure_undo hp hs hcount⟩
    · rw [Portrait.result, result_configure hp.code, hs]
      rfl
    · rw [Portrait.perform, configure_of_ok hp.code hs]

theorem Reachable.edits_commute_and_undo_full :
    let s := { Settings.standard with timeStep := 1, halfSteps := 1, maxTrajectories := 2 }
    let small := { s with maxTrajectories := 1 }
    let fast := { s with timeStep := 2, maxTrajectories := 3 }
    let start : Portrait :=
      ⟨s, ⟨⟨"y", .var .y⟩, ⟨"-x", .negate (.var .x)⟩⟩, ⟨[.fetch .y], [.fetch .x, .negate]⟩, []⟩
    let p := (start.perform (.add ⟨0, 0⟩)).perform (.add ⟨1, 0⟩)
    Portrait.create s "y" "-x" = .ok start ∧ parse "1" = .ok (.const 1) ∧ parse "x" = .ok (.var .x) ∧
    (p.perform (.applyFormulas "1" "x")).perform (.configure small) =
      (p.perform (.configure small)).perform (.applyFormulas "1" "x") ∧
    (p.perform (.applyFormulas "1" "x")).result (.addAtPixel 1 1 0 600) = .error (.emptyWindow 0 600) ∧
    fast.check = .ok () ∧ p.count ≤ fast.maxTrajectories.toNat ∧
    (p.perform (.configure fast)).perform (.configure s) = p := by
  intro s small fast start p
  have hstart : Portrait.create s "y" "-x" = .ok start := by decide +kernel
  have hp : Reachable p := ((Reachable.create hstart).perform _).perform _
  have hx : parse "1" = .ok (.const 1) := by decide +kernel
  have hy : parse "x" = .ok (.var .x) := by decide +kernel
  have hfast : fast.check = .ok () := by decide +kernel
  have hcount : p.count ≤ fast.maxTrajectories.toNat := by decide +kernel
  have hsettings : p.settings = s := by decide +kernel
  have hpixel : p.result (.addAtPixel 1 1 0 600) = .error (.emptyWindow 0 600) := by decide +kernel
  obtain ⟨-, hcomm, -, hundo⟩ := hp.edits_commute_and_undo hx hy
  refine ⟨hstart, hx, hy, (hcomm (.configure small) trivial).1, ?_, hfast, hcount, ?_⟩
  · exact (hcomm (.addAtPixel 1 1 0 600) trivial).2.trans hpixel
  · rw [← hsettings]
    exact (hundo fast hfast hcount).2.2

end PhasePortrait.Portrait
