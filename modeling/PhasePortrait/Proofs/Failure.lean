import PhasePortrait.Proofs.Coherence

/-! # When operations fail

Which arguments an operation refuses, and with which error. Nothing else fails in a portrait that
operations can lead to, since the code of a formula has a value everywhere, and an operation that fails
leaves the whole portrait as it was.
-/
namespace PhasePortrait

/-! ## Results with an error -/

section
variable {ε γ δ : Type}

theorem bind_eq_error_iff {x : Except ε γ} {f : γ → Except ε δ} {e : ε} :
    x >>= f = .error e ↔ x = .error e ∨ ∃ v, x = .ok v ∧ f v = .error e := by
  cases x with
  | error err =>
    constructor
    · intro h
      cases h
      exact .inl rfl
    · rintro (h | ⟨v, h, -⟩)
      · cases h
        rfl
      · cases h
  | ok w =>
    constructor
    · intro h
      exact .inr ⟨w, rfl, h⟩
    · rintro (h | ⟨v, hv, h⟩)
      · cases h
      · cases hv
        exact h

theorem mapError_eq_error_iff {ε' : Type} {x : Except ε γ} {f : ε → ε'} {e : ε'} :
    x.mapError f = .error e ↔ ∃ err, x = .error err ∧ e = f err := by
  cases x with
  | error err =>
    constructor
    · intro h
      cases h
      exact ⟨err, rfl, rfl⟩
    · rintro ⟨err', h, rfl⟩
      cases h
      rfl
  | ok v => exact ⟨nofun, fun ⟨_, h, _⟩ => nomatch h⟩

theorem map_eq_error_iff {x : Except ε γ} {f : γ → δ} {e : ε} : x.map f = .error e ↔ x = .error e := by
  cases x with
  | error err => exact ⟨fun h => by cases h; rfl, fun h => by cases h; rfl⟩
  | ok v => exact ⟨nofun, nofun⟩

end

/-! ## Rejected texts -/

/-- The error of the first text if that one is rejected, and else the error of the second. -/
def RejectedWith (dx dy : String) (e : FormulaError) : Prop :=
  parse dx = .error e ∨ (∃ ex, parse dx = .ok ex) ∧ parse dy = .error e

theorem Formula.ofText_eq_error_iff {text : String} {e : FormulaError} :
    Formula.ofText text = .error e ↔ parse text = .error e := by
  rw [Formula.ofText, bind_eq_error_iff]
  constructor
  · rintro (h | ⟨v, -, h⟩)
    · exact h
    · cases h
  · exact .inl

theorem FormulaPair.ofTexts_eq_error_iff {dx dy : String} {e : FormulaError} :
    ofTexts dx dy = .error e ↔ RejectedWith dx dy e := by
  rw [ofTexts, bind_eq_error_iff, Formula.ofText_eq_error_iff]
  constructor
  · rintro (hx | ⟨fx, hx, h⟩)
    · exact .inl hx
    · rcases bind_eq_error_iff.mp h with hy | ⟨fy, -, h⟩
      · exact .inr ⟨⟨fx.expr, (Formula.ofText_eq_ok_iff.mp hx).2⟩, Formula.ofText_eq_error_iff.mp hy⟩
      · cases h
  · rintro (hx | ⟨⟨ex, hx⟩, hy⟩)
    · exact .inl hx
    · refine .inr ⟨⟨dx, ex⟩, Formula.ofText_eq_ok_iff.mpr ⟨rfl, hx⟩, ?_⟩
      exact bind_eq_error_iff.mpr (.inl (Formula.ofText_eq_error_iff.mpr hy))

/-- Nothing lies below what is no number. -/
theorem not_lt_of_isNaN {a b : Float} (h : b.isNaN = true) : ¬a < b := by
  change ¬Float.lt a b = true
  rw [Float.lt, decide_eq_true_iff]
  change ¬(a.toModel.unpack.compare b.toModel.unpack == some .lt) = true
  change b.toModel.unpack.isNaN = true at h
  generalize a.toModel.unpack = x
  generalize b.toModel.unpack = y at h ⊢
  cases y with
  | notANumber => cases x <;> exact nofun
  | infinity | zero | finite => cases h

namespace Portrait
variable {p : Portrait}

/-! ## The result of each operation -/

theorem result_applyFormulas (p : Portrait) (dx dy : String) :
    (p.applyFormulas dx dy).result = (FormulaPair.ofTexts dx dy).map fun _ => () := by
  cases hf : FormulaPair.ofTexts dx dy with
  | error e =>
    rw [applyFormulas_of_error hf]
    rfl
  | ok f =>
    rw [applyFormulas_of_ok hf]
    rfl

section
variable (hc : p.code = p.formulas.compile)
include hc

theorem result_configure (s : Settings) : (p.configure s).result = s.check.mapError .invalidSettings := by
  cases hs : s.check with
  | error e =>
    rw [configure_of_error hs]
    rfl
  | ok u =>
    rw [configure_of_ok hc hs]
    rfl

theorem result_add (initial : Point Float) :
    (p.add initial).result =
      .ok (p.trajectories.drop (p.count + 1 - p.settings.maxTrajectories.toNat)).length := by
  rw [add_of_compile hc]

theorem result_addAtPixel_eq_error_iff {px py width height : Float} {e : PortraitError} :
    (p.addAtPixel px py width height).result = .error e ↔
      ¬(0 < width ∧ 0 < height) ∧ e = .emptyWindow width height := by
  unfold addAtPixel
  by_cases h : 0 < width ∧ 0 < height
  · rw [if_pos h]
    dsimp only
    rw [result_add hc]
    exact ⟨nofun, fun hn => absurd h hn.1⟩
  · rw [if_neg h]
    constructor
    · intro he
      cases he
      exact ⟨h, rfl⟩
    · rintro ⟨-, rfl⟩
      rfl

end

theorem create_eq_error_iff {s : Settings} {dx dy : String} {e : PortraitError} :
    create s dx dy = .error e ↔
      (∃ c, s.check = .error c ∧ e = .invalidSettings c) ∨
      s.check = .ok () ∧ ∃ err, RejectedWith dx dy err ∧ e = .invalidFormulas err := by
  rw [create, bind_eq_error_iff, mapError_eq_error_iff]
  refine or_congr_right ⟨?_, ?_⟩
  · rintro ⟨u, hs, h⟩
    rcases bind_eq_error_iff.mp h with hf | ⟨f, -, h⟩
    · obtain ⟨err, hf, he⟩ := mapError_eq_error_iff.mp hf
      exact ⟨mapError_eq_ok_iff.mp hs, err, FormulaPair.ofTexts_eq_error_iff.mp hf, he⟩
    · cases h
  · rintro ⟨hs, err, hf, rfl⟩
    refine ⟨(), mapError_eq_ok_iff.mpr hs, bind_eq_error_iff.mpr (.inl ?_)⟩
    exact mapError_eq_error_iff.mpr ⟨err, FormulaPair.ofTexts_eq_error_iff.mpr hf, rfl⟩

/-! ## What an operation leaves alone -/

theorem portrait_applyFormulas_of_error {dx dy : String} {e : FormulaError} :
    (p.applyFormulas dx dy).result = .error e → (p.applyFormulas dx dy).portrait = p := by
  unfold applyFormulas
  split
  · exact fun _ => rfl
  · split
    · exact fun _ => rfl
    · exact nofun

theorem portrait_configure_of_error {s : Settings} {e : PortraitError} :
    (p.configure s).result = .error e → (p.configure s).portrait = p := by
  unfold configure
  split
  · exact fun _ => rfl
  · dsimp only
    split
    · exact fun _ => rfl
    · exact nofun

theorem portrait_add_of_error {initial : Point Float} {e : FormulaError} :
    (p.add initial).result = .error e → (p.add initial).portrait = p := by
  unfold add
  split
  · exact fun _ => rfl
  · exact nofun

theorem portrait_addAtPixel_of_error {px py width height : Float} {e : PortraitError} :
    (p.addAtPixel px py width height).result = .error e → (p.addAtPixel px py width height).portrait = p := by
  unfold addAtPixel
  split
  · intro h
    obtain ⟨err, h, -⟩ := mapError_eq_error_iff.mp h
    exact portrait_add_of_error h
  · exact fun _ => rfl

/-- The operation ends with an error. -/
def Fails (p : Portrait) : Operation → Prop
  | .applyFormulas dx dy => ∃ e, (p.applyFormulas dx dy).result = .error e
  | .configure s => ∃ e, (p.configure s).result = .error e
  | .add initial => ∃ e, (p.add initial).result = .error e
  | .addAtPixel px py width height => ∃ e, (p.addAtPixel px py width height).result = .error e
  | .clear => False

theorem perform_of_fails {o : Operation} (h : p.Fails o) : p.perform o = p := by
  cases o with
  | applyFormulas dx dy => exact portrait_applyFormulas_of_error h.choose_spec
  | configure s => exact portrait_configure_of_error h.choose_spec
  | add initial => exact portrait_add_of_error h.choose_spec
  | addAtPixel px py width height => exact portrait_addAtPixel_of_error h.choose_spec
  | clear => exact h.elim

theorem settings_applyFormulas (p : Portrait) (dx dy : String) :
    (p.applyFormulas dx dy).portrait.settings = p.settings := by
  cases hf : FormulaPair.ofTexts dx dy with
  | error e => rw [applyFormulas_of_error hf]
  | ok f => rw [applyFormulas_of_ok hf]

theorem initials_applyFormulas (p : Portrait) (dx dy : String) :
    (p.applyFormulas dx dy).portrait.initials = p.initials := by
  cases hf : FormulaPair.ofTexts dx dy with
  | error e => rw [applyFormulas_of_error hf]
  | ok f =>
    rw [applyFormulas_of_ok hf]
    exact f.map_initial_traced p.settings p.initials

theorem configure_of_result_ok (hc : p.code = p.formulas.compile) {s : Settings}
    (h : (p.configure s).result = .ok ()) :
    (p.configure s).portrait.formulas = p.formulas ∧ (p.configure s).portrait.code = p.code := by
  rw [result_configure hc] at h
  rw [configure_of_ok hc (mapError_eq_ok_iff.mp h)]
  exact ⟨rfl, rfl⟩

/-- New formulas are refused exactly if one of the texts is rejected, with the error of the first one
that is; new settings exactly if they are unusable; a point under a pixel exactly if the window is not of
positive size. Adding a trajectory through a point and the direction field never fail. What fails leaves
the whole portrait as it was, new formulas keep the settings and the initial points, and new settings
keep the formulas and their code. A portrait is not created exactly if the settings are unusable, which
is reported first, or one of the texts is rejected. -/
theorem Reachable.failures {p : Portrait} (h : Reachable p) :
    (∀ dx dy e, (p.applyFormulas dx dy).result = .error e ↔ RejectedWith dx dy e) ∧
    (∀ s e, (p.configure s).result = .error e ↔ ∃ c, s.check = .error c ∧ e = .invalidSettings c) ∧
    (∀ initial, ∃ index, (p.add initial).result = .ok index) ∧
    (∃ arrows, p.arrows = .ok arrows) ∧
    (∀ px py width height e, (p.addAtPixel px py width height).result = .error e ↔
      ¬(0 < width ∧ 0 < height) ∧ e = .emptyWindow width height) ∧
    (∀ px py width height, width.isNaN ∨ height.isNaN → p.Fails (.addAtPixel px py width height)) ∧
    (∀ o, p.Fails o → p.perform o = p) ∧
    (∀ dx dy, (p.applyFormulas dx dy).result = .ok () →
      (p.applyFormulas dx dy).portrait.settings = p.settings ∧
      (p.applyFormulas dx dy).portrait.initials = p.initials) ∧
    (∀ s, (p.configure s).result = .ok () →
      (p.configure s).portrait.formulas = p.formulas ∧ (p.configure s).portrait.code = p.code) ∧
    ∀ s dx dy e, Portrait.create s dx dy = .error e ↔
      (∃ c, s.check = .error c ∧ e = .invalidSettings c) ∨
      s.check = .ok () ∧ ∃ err, RejectedWith dx dy err ∧ e = .invalidFormulas err := by
  have hc := h.coherent.code
  refine ⟨?_, ?_, fun initial => ⟨_, result_add hc initial⟩, ⟨_, arrows_of_compile hc⟩, ?_, ?_,
    fun o => perform_of_fails, fun dx dy _ => ⟨p.settings_applyFormulas dx dy, p.initials_applyFormulas dx dy⟩,
    fun s => configure_of_result_ok hc, fun s dx dy e => create_eq_error_iff⟩
  · intro dx dy e
    rw [result_applyFormulas, map_eq_error_iff, FormulaPair.ofTexts_eq_error_iff]
  · intro s e
    rw [result_configure hc, mapError_eq_error_iff]
  · intro px py width height e
    exact result_addAtPixel_eq_error_iff hc
  · intro px py width height hn
    refine ⟨_, (result_addAtPixel_eq_error_iff hc).mpr ⟨?_, rfl⟩⟩
    rintro ⟨hw, hh⟩
    rcases hn with hn | hn
    · exact not_lt_of_isNaN hn hw
    · exact not_lt_of_isNaN hn hh

theorem Reachable.failures_rotation :
    let s := { Settings.standard with timeStep := 1, halfSteps := 1 }
    let start : Portrait :=
      ⟨s, ⟨⟨"y", .var .y⟩, ⟨"-x", .negate (.var .x)⟩⟩, ⟨[.fetch .y], [.fetch .x, .negate]⟩, []⟩
    let p := start.perform (.add ⟨0, 0⟩)
    Portrait.create s "y" "-x" = .ok start ∧
    parse "y" = .ok (.var .y) ∧ parse "x+" = .error (.unexpected 2 .factor none) ∧
    (p.applyFormulas "y" "x+").result = .error (.unexpected 2 .factor none) ∧
    p.perform (.applyFormulas "y" "x+") = p ∧
    (0 / 0 : Float).isNaN ∧ p.perform (.addAtPixel 1 1 (0 / 0) 600) = p ∧
    (p.applyFormulas "1" "x").result = .ok () ∧ (p.applyFormulas "1" "x").portrait.initials = p.initials := by
  intro s start p
  have hstart : Portrait.create s "y" "-x" = .ok start := by decide +kernel
  have hp : Reachable p := (Reachable.create hstart).perform _
  have hy : parse "y" = .ok (.var .y) := by decide +kernel
  have hx : parse "x+" = .error (.unexpected 2 .factor none) := by decide +kernel
  have hnan : (0 / 0 : Float).isNaN := by decide +kernel
  have hok : (p.applyFormulas "1" "x").result = .ok () := by decide +kernel
  obtain ⟨happly, -, -, -, -, hpixel, hkeep, hedit, -, -⟩ := hp.failures
  have herror := (happly "y" "x+" _).mpr (.inr ⟨⟨_, hy⟩, hx⟩)
  exact ⟨hstart, hy, hx, herror, hkeep _ ⟨_, herror⟩, hnan, hkeep _ (hpixel 1 1 (0 / 0) 600 (.inl hnan)), hok,
    (hedit "1" "x" hok).2⟩

end Portrait
end PhasePortrait
