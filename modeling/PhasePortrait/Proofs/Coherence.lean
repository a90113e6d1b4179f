import PhasePortrait.Proofs.Fields

/-! # Coherent portraits

Settings, formulas, code and trajectories of a portrait are kept apart and changed by different
operations. In a portrait that operations can lead to they always belong together: what is stored is
what reading the two texts at every point would give now.
-/
namespace PhasePortrait

theorem Settings.check_eq_ok_iff {s : Settings} :
    s.check = .ok () ↔ s.bounds.check = .ok () ∧ s.grid.check = .ok () ∧
      ¬(!s.arrowLength.isFinite || s.arrowLength ≤ 0) ∧ ¬(!s.timeStep.isFinite || s.timeStep == 0) ∧
      ¬s.halfSteps = 0 ∧ ¬s.halfSteps.toNat > maxHalfSteps ∧
      ¬s.maxTrajectories = 0 ∧ ¬s.maxTrajectories.toNat > trajectoryLimit := by
  unfold check
  cases s.bounds.check with
  | error err => simp
  | ok u =>
    cases s.grid.check with
    | error err => simp
    | ok u => simp only [ite_error_eq_ok_iff, true_and, and_true]

theorem Settings.maxTrajectories_pos {s : Settings} (h : s.check = .ok ()) : 0 < s.maxTrajectories.toNat := by
  obtain ⟨-, -, -, -, -, -, hne, -⟩ := check_eq_ok_iff.mp h
  exact Nat.pos_of_ne_zero fun hz => hne (UInt64.toNat_inj.mp hz)

namespace Portrait

/-! ## Operations and runs -/

inductive Operation
  | applyFormulas (dx dy : String)
  | configure (s : Settings)
  | add (initial : Point Float)
  | addAtPixel (px py width height : Float)
  | clear

/-- The portrait after an operation, be it successful or not. -/
def perform (p : Portrait) : Operation → Portrait
  | .applyFormulas dx dy => (p.applyFormulas dx dy).portrait
  | .configure s => (p.configure s).portrait
  | .add initial => (p.add initial).portrait
  | .addAtPixel px py width height => (p.addAtPixel px py width height).portrait
  | .clear => p.clear

/-- The portraits that operations lead to from one that has been created. -/
inductive Reachable : Portrait → Prop
  | create {s : Settings} {dx dy : String} {p : Portrait} : create s dx dy = .ok p → Reachable p
  | ofSettings {s : Settings} {p : Portrait} : ofSettings s = .ok p → Reachable p
  | perform {p : Portrait} (o : Operation) : Reachable p → Reachable (p.perform o)

/-! ## What an operation does where the code is that of the formulas -/

theorem create_eq_ok_iff {s : Settings} {dx dy : String} {p : Portrait} :
    create s dx dy = .ok p ↔
      ∃ f, s.check = .ok () ∧ FormulaPair.ofTexts dx dy = .ok f ∧ p = ⟨s, f, f.compile, []⟩ := by
  rw [create, bind_eq_ok_iff]
  constructor
  · rintro ⟨u, hs, h⟩
    obtain ⟨f, hf, h⟩ := bind_eq_ok_iff.mp h
    cases h
    exact ⟨f, mapError_eq_ok_iff.mp hs, mapError_eq_ok_iff.mp hf, rfl⟩
  · rintro ⟨f, hs, hf, rfl⟩
    exact ⟨(), mapError_eq_ok_iff.mpr hs, bind_eq_ok_iff.mpr ⟨f, mapError_eq_ok_iff.mpr hf, rfl⟩⟩

section
variable {p : Portrait}

theorem applyFormulas_of_error {dx dy : String} {e : FormulaError} (h : FormulaPair.ofTexts dx dy = .error e) :
    p.applyFormulas dx dy = ⟨.error e, p, [.rejected dx dy e]⟩ := by
  rw [applyFormulas, h]

theorem applyFormulas_of_ok {dx dy : String} {f : FormulaPair} (h : FormulaPair.ofTexts dx dy = .ok f) :
    p.applyFormulas dx dy =
      ⟨.ok (), { p with formulas := f, code := f.compile, trajectories := p.initials.map (f.traced p.settings) },
        [.applied dx dy p.count]⟩ := by
  obtain ⟨hx, hy⟩ := FormulaPair.texts_of_ofTexts h
  rw [applyFormulas, h]
  simp only [FormulaPair.traceAll_compile, hx, hy, List.length_map, initials, count]

theorem configure_of_error {s : Settings} {e : SettingsError} (h : s.check = .error e) :
    p.configure s = ⟨.error (.invalidSettings e), p, []⟩ := by
  rw [configure, h]

variable (hc : p.code = p.formulas.compile)
include hc

theorem configure_of_ok {s : Settings} (h : s.check = .ok ()) :
    p.configure s =
      let excess := p.count - s.maxTrajectories.toNat
      ⟨.ok (), { p with
        settings := s
        trajectories := (p.initials.drop excess).map (p.formulas.traced s) },
        (if 0 < excess then [.dropped excess s.maxTrajectories] else []) ++ [.configured s]⟩ := by
  rw [configure, h]
  simp only [hc, FormulaPair.traceAll_compile]
  rfl

theorem add_of_compile (initial : Point Float) :
    p.add initial =
      let excess := p.count + 1 - p.settings.maxTrajectories.toNat
      ⟨.ok (p.trajectories.drop excess).length, { p with
        trajectories := p.trajectories.drop excess ++ [p.formulas.traced p.settings initial] },
        (p.trajectories.take excess).map (fun t => .evicted t.initial) ++
          [.traced (p.formulas.traced p.settings initial).states.length initial]⟩ := by
  rw [add, hc, FormulaPair.answer_traceFrom]
  rfl

theorem arrows_of_compile : p.arrows = .ok (p.formulas.arrows p.settings) := by
  rw [arrows, hc, FormulaPair.answer_sampleArrows]

end

/-! ## Coherence -/

/-- The parts of the portrait belong together. -/
structure Coherent (p : Portrait) : Prop where
  settings : p.settings.check = .ok ()
  formulas : FormulaPair.ofTexts p.formulas.dx.text p.formulas.dy.text = .ok p.formulas
  code : p.code = p.formulas.compile
  count_le : p.count ≤ p.settings.maxTrajectories.toNat
  traced : ∀ t ∈ p.trajectories, t = p.formulas.traced p.settings t.initial

theorem eq_traced_of_mem_map {f : FormulaPair} {s : Settings} {initials : List (Point Float)} {t : Trajectory}
    (h : t ∈ initials.map (f.traced s)) : t = f.traced s t.initial := by
  obtain ⟨initial, -, rfl⟩ := List.mem_map.mp h
  rfl

namespace Coherent
variable {p : Portrait} (h : p.Coherent)

theorem create {s : Settings} {dx dy : String} (hp : create s dx dy = .ok p) : p.Coherent := by
  obtain ⟨f, hs, hf, rfl⟩ := create_eq_ok_iff.mp hp
  exact {
    settings := hs
    formulas := FormulaPair.ofTexts_texts hf
    code := rfl
    count_le := Nat.zero_le _
    traced := fun _ ht => nomatch ht }

include h

theorem applyFormulas (dx dy : String) : (p.applyFormulas dx dy).portrait.Coherent := by
  cases hf : FormulaPair.ofTexts dx dy with
  | error err =>
    rw [applyFormulas_of_error hf]
    exact h
  | ok f =>
    rw [applyFormulas_of_ok hf]
    exact {
      settings := h.settings
      formulas := FormulaPair.ofTexts_texts hf
      code := rfl
      count_le := by simpa [count, initials] using h.count_le
      traced := fun _ ht => eq_traced_of_mem_map ht }

theorem configure (s : Settings) : (p.configure s).portrait.Coherent := by
  cases hs : s.check with
  | error err =>
    rw [configure_of_error hs]
    exact h
  | ok u =>
    rw [configure_of_ok h.code hs]
    exact {
      settings := hs
      formulas := h.formulas
      code := h.code
      count_le := by
        simp only [count, initials, List.length_map, List.length_drop]
        omega
      traced := fun _ ht => eq_traced_of_mem_map ht }

theorem add (initial : Point Float) : (p.add initial).portrait.Coherent := by
  have hpos := Settings.maxTrajectories_pos h.settings
  have hle : p.trajectories.length ≤ _ := h.count_le
  rw [add_of_compile h.code]
  exact {
    settings := h.settings
    formulas := h.formulas
    code := h.code
    count_le := by
      -- with a limit of 0 the new trajectory would be one too many
      simp only [count, List.length_append, List.length_drop, List.length_singleton]
      omega
    traced := by
      intro t ht
      rcases List.mem_append.mp ht with ht | ht
      · exact h.traced t (List.mem_of_mem_drop ht)
      · rw [List.mem_singleton.mp ht]
        rfl }

theorem addAtPixel (px py width height : Float) : (p.addAtPixel px py width height).portrait.Coherent := by
  unfold Portrait.addAtPixel
  split
  · exact h.add _
  · exact h

theorem clear : p.clear.Coherent where
  settings := h.settings
  formulas := h.formulas
  code := h.code
  count_le := Nat.zero_le _
  traced := fun _ ht => nomatch ht

theorem perform (o : Operation) : (p.perform o).Coherent := by
  cases o with
  | applyFormulas dx dy => exact h.applyFormulas dx dy
  | configure s => exact h.configure s
  | add initial => exact h.add initial
  | addAtPixel px py width height => exact h.addAtPixel px py width height
  | clear => exact h.clear

end Coherent

theorem Reachable.coherent {p : Portrait} (h : Reachable p) : p.Coherent := by
  induction h with
  | create hp => exact .create hp
  | ofSettings hp => exact .create hp
  | perform o _ ih => exact ih.perform o

/-- In a portrait that operations can lead to, the settings are usable, the texts are accepted with the
trees that are kept, the code is that of the trees and there are no more trajectories than the settings
allow. Nothing kept is out of date: the trajectories and the direction field are those that the field
reading the two texts gives with the present settings. -/
theorem Reachable.stored_eq_scanned {p : Portrait} (h : Reachable p) :
    p.settings.check = .ok () ∧
    (parse p.formulas.dx.text = .ok p.formulas.dx.expr ∧ parse p.formulas.dy.text = .ok p.formulas.dy.expr) ∧
    p.code = ⟨p.formulas.dx.expr.compile, p.formulas.dy.expr.compile⟩ ∧
    p.count ≤ p.settings.maxTrajectories.toNat ∧
    (∀ t ∈ p.trajectories,
      trace (scanningField p.formulas.dx.text p.formulas.dy.text) t.initial p.settings.timeStep
        p.settings.halfSteps.toNat = .ok t.states ∧
      t.states.length = 2 * p.settings.halfSteps.toNat) ∧
    ∃ arrows, p.arrows = .ok arrows ∧
      sampleArrows (scanningField p.formulas.dx.text p.formulas.dy.text) p.settings.bounds p.settings.grid
        p.settings.arrowLength = .ok arrows := by
  have hp := h.coherent
  obtain ⟨hx, hy⟩ := FormulaPair.ofTexts_eq_ok_iff.mp hp.formulas
  refine ⟨hp.settings, ⟨(Formula.ofText_eq_ok_iff.mp hx).2, (Formula.ofText_eq_ok_iff.mp hy).2⟩, hp.code,
    hp.count_le, ?_, p.formulas.arrows p.settings, arrows_of_compile hp.code,
    FormulaPair.sampleArrows_scanningField hp.formulas p.settings⟩
  intro t ht
  have hstates : t.states = (p.formulas.traced p.settings t.initial).states := by rw [← hp.traced t ht]
  rw [hstates]
  exact ⟨FormulaPair.trace_scanningField hp.formulas .., FormulaPair.length_traced ..⟩

theorem Reachable.stored_eq_scanned_parabola :
    let s := { Settings.standard with timeStep := 1, halfSteps := 1 }
    let start : Portrait :=
      ⟨s, ⟨⟨"y", .var .y⟩, ⟨"-x", .negate (.var .x)⟩⟩, ⟨[.fetch .y], [.fetch .x, .negate]⟩, []⟩
    let p := ((start.perform (.add ⟨0, 0⟩)).perform (.applyFormulas "1" "x")).perform (.applyFormulas "1" "z")
    Portrait.create s "y" "-x" = .ok start ∧
    p.trajectories = [⟨⟨0, 0⟩, [⟨-1, 0.5⟩, ⟨1, 0.5⟩]⟩] ∧
    trace (scanningField "1" "x") ⟨0, 0⟩ 1 1 = .ok [⟨-1, 0.5⟩, ⟨1, 0.5⟩] := by
  intro s start p
  have hstart : Portrait.create s "y" "-x" = .ok start := eq_ok_of_toOption (by decide +kernel)
  have hp : Reachable p := (((Reachable.create hstart).perform _).perform _).perform _
  have htrajectories : p.trajectories = [⟨⟨0, 0⟩, [⟨-1, 0.5⟩, ⟨1, 0.5⟩]⟩] := by decide +kernel
  have hformulas : p.formulas.dx.text = "1" ∧ p.formulas.dy.text = "x" := by decide +kernel
  have hsettings : p.settings.timeStep = 1 ∧ p.settings.halfSteps.toNat = 1 := by decide +kernel
  obtain ⟨-, -, -, -, hstates, -⟩ := hp.stored_eq_scanned
  have h := (hstates _ (htrajectories ▸ List.mem_singleton_self _)).1
  rw [hformulas.1, hformulas.2, hsettings.1, hsettings.2] at h
  exact ⟨hstart, htrajectories, h⟩

end Portrait
end PhasePortrait
