import PhasePortrait.Portrait.Basic
import PhasePortrait.Proofs.Building
import PhasePortrait.Proofs.Simulation
import PhasePortrait.Proofs.StackMachine

/-! # The fields of two formulas

The field that reads two texts and the field that runs their code both answer with the values of the
two trees. Neither fails where the texts are accepted, and no answer depends on an earlier one, so both
give the same trajectories and arrows.
-/
namespace PhasePortrait

/-! ## Results without an error -/

section
variable {ε γ δ : Type}

theorem bind_eq_ok_iff {x : Except ε γ} {f : γ → Except ε δ} {w : δ} :
    x >>= f = .ok w ↔ ∃ v, x = .ok v ∧ f v = .ok w := by
  cases x with
  | error e => exact ⟨nofun, nofun⟩
  | ok v =>
    constructor
    · intro h
      exact ⟨v, rfl, h⟩
    · rintro ⟨u, hu, h⟩
      cases hu
      exact h

theorem mapError_eq_ok_iff {ε' : Type} {x : Except ε γ} {f : ε → ε'} {v : γ} :
    x.mapError f = .ok v ↔ x = .ok v := by
  cases x with
  | error e => exact ⟨nofun, nofun⟩
  | ok w =>
    constructor
    · intro h
      cases h
      rfl
    · intro h
      cases h
      rfl

theorem map_eq_ok_iff {x : Except ε γ} {f : γ → δ} {w : δ} : x.map f = .ok w ↔ ∃ v, x = .ok v ∧ f v = w := by
  cases x with
  | error e => exact ⟨nofun, nofun⟩
  | ok v =>
    constructor
    · intro h
      cases h
      exact ⟨v, rfl, rfl⟩
    · rintro ⟨u, hu, rfl⟩
      cases hu
      rfl

theorem ite_error_eq_ok_iff {c : Prop} [Decidable c] {e : ε} {x : Except ε γ} {v : γ} :
    (if c then .error e else x) = .ok v ↔ ¬c ∧ x = .ok v := by
  by_cases h : c
  · rw [if_pos h]
    exact ⟨nofun, fun hn => absurd h hn.1⟩
  · rw [if_neg h]
    exact ⟨fun hx => ⟨h, hx⟩, fun hn => hn.2⟩

theorem eq_ok_of_toOption {x : Except ε γ} {v : γ} (h : x.toOption = some v) : x = .ok v := by
  cases x with
  | error e => cases h
  | ok w =>
    cases h
    rfl

end

/-! ## Accepted texts -/

theorem Formula.ofText_eq_ok_iff {text : String} {f : Formula} :
    Formula.ofText text = .ok f ↔ f.text = text ∧ parse text = .ok f.expr := by
  rw [Formula.ofText, bind_eq_ok_iff]
  constructor
  · rintro ⟨e, he, h⟩
    cases h
    exact ⟨rfl, he⟩
  · rintro ⟨rfl, h⟩
    exact ⟨f.expr, h, rfl⟩

namespace FormulaPair

theorem ofTexts_eq_ok_iff {dx dy : String} {f : FormulaPair} :
    ofTexts dx dy = .ok f ↔ Formula.ofText dx = .ok f.dx ∧ Formula.ofText dy = .ok f.dy := by
  rw [ofTexts, bind_eq_ok_iff]
  constructor
  · rintro ⟨fx, hx, h⟩
    obtain ⟨fy, hy, h⟩ := bind_eq_ok_iff.mp h
    cases h
    exact ⟨hx, hy⟩
  · rintro ⟨hx, hy⟩
    exact ⟨f.dx, hx, bind_eq_ok_iff.mpr ⟨f.dy, hy, rfl⟩⟩

theorem texts_of_ofTexts {dx dy : String} {f : FormulaPair} (h : ofTexts dx dy = .ok f) :
    f.dx.text = dx ∧ f.dy.text = dy := by
  obtain ⟨hx, hy⟩ := ofTexts_eq_ok_iff.mp h
  exact ⟨(Formula.ofText_eq_ok_iff.mp hx).1, (Formula.ofText_eq_ok_iff.mp hy).1⟩

/-- The texts of a pair read as this pair. -/
theorem ofTexts_texts {dx dy : String} {f : FormulaPair} (h : ofTexts dx dy = .ok f) :
    ofTexts f.dx.text f.dy.text = .ok f := by
  obtain ⟨hx, hy⟩ := texts_of_ofTexts h
  rw [hx, hy]
  exact h

/-! ## One answer -/

/-- The field that computes from the trees. -/
def field (f : FormulaPair) (p : Point Float) : Id (Point Float) := pure (f.eval p)

end FormulaPair

/-- Reading at a point fails as reading the pair does, and else gives the values of the trees. -/
theorem scanningField_eq (dx dy : String) (p : Point Float) :
    scanningField dx dy p = (FormulaPair.ofTexts dx dy).map fun f => f.eval p := by
  rw [scanningField, evaluate_eq, evaluate_eq, FormulaPair.ofTexts, Formula.ofText, Formula.ofText]
  cases parse dx with
  | error err => rfl
  | ok ex =>
    cases parse dy with
    | error err => rfl
    | ok ey => rfl

namespace FormulaPair

theorem scanningField_of_ofTexts {dx dy : String} {f : FormulaPair} (h : ofTexts dx dy = .ok f) (p : Point Float) :
    (Simulation.succeeding FormulaError).related (scanningField dx dy p) (f.field p) := by
  change scanningField dx dy p = .ok (f.eval p)
  rw [scanningField_eq, h]
  rfl

/-- The code answers with the values of the trees, whatever an earlier answer left on the stack. -/
theorem run_execute (f : FormulaPair) (p : Point Float) (stack : List Float) :
    (f.compile.execute p).run stack = (f.eval p, []) := by
  have hx : (f.compile.dx.execute p).run stack = (f.dx.eval p, []) := run_execute_compile ..
  have hy : (f.compile.dy.execute p).run [] = (f.dy.eval p, []) := run_execute_compile ..
  rw [CodePair.execute, StateT.run_bind, hx]
  change ((f.compile.dy.execute p).run [] >>= fun r => pure (⟨f.dx.eval p, r.1⟩, r.2)) = (f.eval p, [])
  rw [hy]
  rfl

theorem run_field_compile (f : FormulaPair) (p : Point Float) (stack : List Float) :
    (f.compile.field p).run.run stack = (.ok (f.eval p), []) := by
  rw [CodePair.field, ExceptT.run_lift, StateT.run_map, run_execute]
  rfl

theorem field_compile (f : FormulaPair) (p : Point Float) :
    (Simulation.answering (List Float)).related (f.compile.field p) (f.field p) :=
  fun stack => ⟨[], f.run_field_compile p stack⟩

/-! ## Trajectories and arrows -/

def traced (f : FormulaPair) (s : Settings) (initial : Point Float) : Trajectory :=
  ⟨initial, Id.run (trace f.field initial s.timeStep s.halfSteps.toNat)⟩

def arrows (f : FormulaPair) (s : Settings) : List Arrow :=
  Id.run (sampleArrows f.field s.bounds s.grid s.arrowLength)

theorem map_initial_traced (f : FormulaPair) (s : Settings) (initials : List (Point Float)) :
    (initials.map (f.traced s)).map Trajectory.initial = initials := by
  rw [List.map_map]
  exact List.map_id initials

theorem length_traced (f : FormulaPair) (s : Settings) (initial : Point Float) :
    (f.traced s initial).states.length = 2 * s.halfSteps.toNat := length_trace ..

theorem answer_of_related {γ : Type} {x : Asking (List Float) γ} {v : Id γ}
    (h : (Simulation.answering (List Float)).related x v) : CodePair.answer x = .ok (Id.run v) := by
  obtain ⟨stack, hs⟩ := h []
  exact congrArg Prod.fst hs

theorem related_traceFrom (f : FormulaPair) (s : Settings) (initial : Point Float) :
    (Simulation.answering (List Float)).related (f.compile.traceFrom s initial) (pure (f.traced s initial)) := by
  let R := Simulation.answering (List Float)
  exact R.related_bind (R.related_trace f.field_compile initial s.timeStep s.halfSteps.toNat) fun states =>
    R.related_pure (⟨initial, states⟩ : Trajectory)

theorem answer_traceFrom (f : FormulaPair) (s : Settings) (initial : Point Float) :
    CodePair.answer (f.compile.traceFrom s initial) = .ok (f.traced s initial) :=
  answer_of_related (f.related_traceFrom s initial)

theorem traceAll_compile (f : FormulaPair) (s : Settings) (initials : List (Point Float)) :
    f.compile.traceAll s initials = .ok (initials.map (f.traced s)) := by
  rw [CodePair.traceAll, answer_of_related (Simulation.related_mapM _ (f.related_traceFrom s) initials)]
  simp

theorem answer_sampleArrows (f : FormulaPair) (s : Settings) :
    CodePair.answer (sampleArrows f.compile.field s.bounds s.grid s.arrowLength) = .ok (f.arrows s) :=
  answer_of_related (Simulation.related_sampleArrows (Simulation.answering _) f.field_compile _ _ _)

theorem trace_scanningField {dx dy : String} {f : FormulaPair} (h : ofTexts dx dy = .ok f) (s : Settings)
    (initial : Point Float) :
    trace (scanningField dx dy) initial s.timeStep s.halfSteps.toNat = .ok (f.traced s initial).states :=
  Simulation.related_trace _ (scanningField_of_ofTexts h) ..

theorem sampleArrows_scanningField {dx dy : String} {f : FormulaPair} (h : ofTexts dx dy = .ok f) (s : Settings) :
    sampleArrows (scanningField dx dy) s.bounds s.grid s.arrowLength = .ok (f.arrows s) :=
  Simulation.related_sampleArrows _ (scanningField_of_ofTexts h) ..

end FormulaPair

/-! ## One field in the place of the other -/

/-- The result of a computation that starts from the state `s`. -/
def resultFrom {σ γ : Type} (s : σ) (x : Asking σ γ) : Except FormulaError γ := (Id.run (x.run.run s)).1

namespace VectorField
variable {σ : Type}

/-- The answers of a field that is asked at one point after another, failures among them. -/
def answers (field : VectorField σ) (points : List (Point Float)) :
    StateM σ (List (Except FormulaError (Point Float))) :=
  points.mapM fun p => (field p).run

/-- A field whose answer at a point is the same in every state gives this answer every time. -/
theorem run_answers {field : VectorField σ} {answer : Point Float → Except FormulaError (Point Float)}
    (h : ∀ p s, resultFrom s (field p) = answer p) (points : List (Point Float)) (s : σ) :
    (Id.run ((field.answers points).run s)).1 = points.map answer := by
  induction points generalizing s with
  | nil => rfl
  | cons p points ih =>
    rw [List.map_cons, ← h p s, ← ih (Id.run ((field p).run.run s)).2, answers, List.mapM_cons]
    rfl

end VectorField

/-- The value that a computation certainly gives is the result of one without a state that gives it. -/
theorem resultFrom_eq_of_related {σ γ : Type} {x : Asking σ γ} {y : Except FormulaError γ} {v : Id γ}
    (hx : (Simulation.answering σ).related x v) (hy : (Simulation.succeeding FormulaError).related y v) (s : σ) :
    resultFrom s x = y := by
  obtain ⟨s', hs⟩ := hx s
  rw [hy]
  exact congrArg Prod.fst hs

/-- Where the two texts are accepted, their code answers at every point of a row as reading the texts
does, whatever earlier answers left on the stack, and steps, trajectories and arrows are the same with
either field. Where they are rejected, reading them ends with the error of the pair at every point. -/
theorem field_compile_eq_scanningField (dx dy : String) :
    (∀ f, FormulaPair.ofTexts dx dy = .ok f → ∀ stack,
      (∀ points, (Id.run ((f.compile.field.answers points).run stack)).1 = points.map (scanningField dx dy)) ∧
      (∀ s dt, resultFrom stack (rungeKutta f.compile.field s dt) = rungeKutta (scanningField dx dy) s dt) ∧
      (∀ initial dt halfSteps, resultFrom stack (trace f.compile.field initial dt halfSteps) =
        trace (scanningField dx dy) initial dt halfSteps) ∧
      ∀ b grid length, resultFrom stack (sampleArrows f.compile.field b grid length) =
        sampleArrows (scanningField dx dy) b grid length) ∧
    ∀ e, FormulaPair.ofTexts dx dy = .error e → ∀ p, scanningField dx dy p = .error e := by
  constructor
  · intro f hf stack
    have hc := f.field_compile
    have hs := FormulaPair.scanningField_of_ofTexts hf
    refine ⟨?_, ?_, ?_, ?_⟩
    · intro points
      exact VectorField.run_answers (fun p => resultFrom_eq_of_related (hc p) (hs p)) points stack
    · intro s dt
      exact resultFrom_eq_of_related (Simulation.related_rungeKutta _ hc s dt)
        (Simulation.related_rungeKutta _ hs s dt) stack
    · intro initial dt halfSteps
      exact resultFrom_eq_of_related (Simulation.related_trace _ hc initial dt halfSteps)
        (Simulation.related_trace _ hs initial dt halfSteps) stack
    · intro b grid length
      exact resultFrom_eq_of_related (Simulation.related_sampleArrows _ hc b grid length)
        (Simulation.related_sampleArrows _ hs b grid length) stack
  · intro e he p
    rw [scanningField_eq, he]
    rfl

theorem field_compile_eq_scanningField_quotient :
    let f : FormulaPair := ⟨⟨"x/y", .binary .div (.var .x) (.var .y)⟩, ⟨"-x", .negate (.var .x)⟩⟩
    FormulaPair.ofTexts "x/y" "-x" = .ok f ∧
    (Id.run ((f.compile.field.answers [⟨1, 2⟩, ⟨1, 0⟩]).run [7])).1 = [.ok ⟨0.5, -1⟩, .ok ⟨1 / 0, -1⟩] ∧
    FormulaPair.ofTexts "x+" "z" = .error (.unexpected 2 .factor none) ∧
    scanningField "x+" "z" ⟨1, 2⟩ = .error (.unexpected 2 .factor none) := by
  intro f
  have hf : FormulaPair.ofTexts "x/y" "-x" = .ok f := by decide +kernel
  have he : FormulaPair.ofTexts "x+" "z" = .error (.unexpected 2 .factor none) := by decide +kernel
  have hanswers := ((field_compile_eq_scanningField "x/y" "-x").1 f hf [7]).1 [⟨1, 2⟩, ⟨1, 0⟩]
  refine ⟨hf, hanswers.trans (by decide +kernel), he, ?_⟩
  exact (field_compile_eq_scanningField "x+" "z").2 _ he ⟨1, 2⟩

end PhasePortrait
