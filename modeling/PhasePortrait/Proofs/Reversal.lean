import Mathlib.Data.List.Forall2
import PhasePortrait.Proofs.Edits
import PhasePortrait.Proofs.Negation

/-! # Trajectories backward and longer trajectories

The two halves of a trajectory are marches from the same point with opposite steps, so the opposite step
reverses the trajectory. A longer march begins with the shorter one, so more steps lengthen a trajectory at
both ends. Settings that differ in the sign of the step or in the number of steps therefore change the stored
trajectories of a portrait in the same two ways.
-/
namespace PhasePortrait

/-- The longer list is the shorter one with `n` more states at each end. -/
def Extends (n : Nat) (shorter longer : List (Point Float)) : Prop :=
  ∃ front back, front.length = n ∧ back.length = n ∧ longer = front ++ shorter ++ back

theorem Extends.middle {n : Nat} {shorter longer : List (Point Float)} (h : Extends n shorter longer) :
    (longer.drop n).take shorter.length = shorter := by
  obtain ⟨front, back, rfl, -, rfl⟩ := h
  rw [List.append_assoc, List.drop_left, List.take_left]

/-! ## Marches and trajectories of a field that computes -/

section
variable {α : Type} [Add α] [Mul α] [Div α] [OfScientific α] [OfNat α 2] [OfNat α 6]
variable (field : Point α → Id (Point α)) (dt : α)

theorem march_seen (steps : Nat) (s : Point α) (seen : List (Point α)) :
    Id.run (march field dt steps s seen) = Id.run (march field dt steps s []) ++ seen := by
  induction steps generalizing s seen with
  | zero => rfl
  | succ steps ih =>
    rw [march, march, Id.run_bind, Id.run_bind, ih, ih _ [_], List.append_assoc]
    rfl

/-- The last state comes first, so what a march begins with is at the end. -/
theorem march_suffix {few many : Nat} (h : few ≤ many) (s : Point α) :
    Id.run (march field dt few s []) <:+ Id.run (march field dt many s []) := by
  induction few generalizing many s with
  | zero => exact List.nil_suffix
  | succ few ih =>
    obtain ⟨many, rfl⟩ := Nat.exists_eq_add_of_le' h
    have hle : few ≤ many + few := Nat.le_add_left ..
    obtain ⟨front, hfront⟩ := ih hle (Id.run (rungeKutta field s dt))
    refine ⟨front, ?_⟩
    rw [march, Id.run_bind, march_seen, ← List.append_assoc, hfront]
    change _ = Id.run (march field dt (many + few + 1) s [])
    rw [march, Id.run_bind, march_seen _ _ _ _ [_]]

variable [Neg α]

theorem run_trace (initial : Point α) (halfSteps : Nat) :
    Id.run (trace field initial dt halfSteps) =
      Id.run (march field (-dt) halfSteps initial []) ++ (Id.run (march field dt halfSteps initial [])).reverse :=
  rfl

theorem trace_neg (h : - -dt = dt) (initial : Point α) (halfSteps : Nat) :
    Id.run (trace field initial (-dt) halfSteps) = (Id.run (trace field initial dt halfSteps)).reverse := by
  rw [run_trace, run_trace, h, List.reverse_append, List.reverse_reverse]

end

theorem extends_trace (field : Point Float → Id (Point Float)) (initial : Point Float) (dt : Float)
    {few many : Nat} (h : few ≤ many) :
    Extends (many - few) (Id.run (trace field initial dt few)) (Id.run (trace field initial dt many)) := by
  have hlength {states : List (Point Float)} {step : Float}
      (hs : states ++ Id.run (march field step few initial []) = Id.run (march field step many initial [])) :
      states.length = many - few := by
    have hsum := congrArg List.length hs
    rw [List.length_append, length_march, length_march, List.length_nil] at hsum
    omega
  obtain ⟨front, hfront⟩ := march_suffix field (-dt) h initial
  obtain ⟨back, hback⟩ := march_suffix field dt h initial
  refine ⟨front, back.reverse, hlength hfront, ?_, ?_⟩
  · rw [List.length_reverse, hlength hback]
  · rw [run_trace, run_trace, ← hfront, ← hback, List.reverse_append]
    simp only [List.append_assoc]

theorem resultFrom_trace {σ : Type} {field : VectorField σ} {velocity : Point Float → Point Float}
    (h : ∀ q s, resultFrom s (field q) = .ok (velocity q)) (s : σ) (initial : Point Float) (dt : Float)
    (halfSteps : Nat) :
    resultFrom s (trace field initial dt halfSteps) =
      .ok (Id.run (trace (fun q => pure (velocity q)) initial dt halfSteps)) := by
  have hfield (q : Point Float) : (Simulation.answering σ).related (field q) (pure (velocity q)) :=
    fun s => ⟨_, Prod.ext (h q s) rfl⟩
  obtain ⟨s', hs⟩ := Simulation.related_trace _ hfield initial dt halfSteps s
  exact congrArg Prod.fst hs

/-! ## Settings -/

/-- The same settings with time running the other way. -/
def Settings.reversed (s : Settings) : Settings := { s with timeStep := -s.timeStep }

theorem Settings.reversed_reversed (s : Settings) : s.reversed.reversed = s := by
  rw [reversed, reversed, Double.neg_neg]

theorem Settings.check_reversed (s : Settings) : s.reversed.check = s.check := by
  unfold check reversed
  dsimp only
  rw [Double.isFinite_neg, Double.neg_beq_zero]

theorem Settings.check_halfSteps {s : Settings} (h : s.check = .ok ()) {n : UInt64} (hle : s.halfSteps ≤ n)
    (hn : n.toNat ≤ maxHalfSteps) : { s with halfSteps := n }.check = .ok () := by
  obtain ⟨hbounds, hgrid, harrow, hstep, hzero, -, hlimit⟩ := check_eq_ok_iff.mp h
  refine check_eq_ok_iff.mpr ⟨hbounds, hgrid, harrow, hstep, ?_, Nat.not_lt.mpr hn, hlimit⟩
  rintro rfl
  exact hzero (UInt64.le_zero_iff.mp hle)

/-! ## Stored trajectories -/

/-- The trajectory through the same point with its states the other way round. -/
def Trajectory.reversed (t : Trajectory) : Trajectory := { t with states := t.states.reverse }

theorem FormulaPair.traced_reversed (f : FormulaPair) (s : Settings) (initial : Point Float) :
    f.traced s.reversed initial = (f.traced s initial).reversed := by
  rw [traced, traced, Trajectory.reversed, Settings.reversed, trace_neg _ _ (Double.neg_neg _)]

theorem FormulaPair.extends_traced (f : FormulaPair) (s : Settings) {n : UInt64} (h : s.halfSteps ≤ n)
    (initial : Point Float) :
    Extends (n.toNat - s.halfSteps.toNat) (f.traced s initial).states
      (f.traced { s with halfSteps := n } initial).states :=
  extends_trace f.field initial s.timeStep (UInt64.le_iff_toNat_le.mp h)

namespace Portrait

theorem configure_done {p q : Portrait} {s : Settings} {events : List Event}
    (h : p.configure s = ⟨.ok (), q, events⟩) :
    p.result (.configure s) = .ok none ∧ p.perform (.configure s) = q := by
  rw [result, perform, h]
  exact ⟨rfl, rfl⟩

theorem Coherent.configure_eq {p : Portrait} (h : p.Coherent) {s : Settings} (hs : s.check = .ok ())
    (hmax : s.maxTrajectories = p.settings.maxTrajectories) :
    p.configure s =
      ⟨.ok (), { p with settings := s, trajectories := p.initials.map (p.formulas.traced s) }, [.configured s]⟩ := by
  have hexcess : p.count - s.maxTrajectories.toNat = 0 := by
    rw [hmax]
    exact Nat.sub_eq_zero_of_le h.count_le
  rw [configure_of_ok h.code hs, hexcess]
  rfl

section
variable {p : Portrait} (h : p.Coherent)
include h

theorem Coherent.configure_reversed :
    p.configure p.settings.reversed =
      ⟨.ok (), { p with settings := p.settings.reversed, trajectories := p.trajectories.map .reversed },
        [.configured p.settings.reversed]⟩ := by
  have htrajectories :
      p.initials.map (p.formulas.traced p.settings.reversed) = p.trajectories.map .reversed := by
    conv_rhs => rw [h.trajectories_eq, List.map_map]
    exact List.map_congr_left fun initial _ => p.formulas.traced_reversed p.settings initial
  rw [h.configure_eq (p.settings.check_reversed.trans h.settings) rfl, htrajectories]

theorem Coherent.reversed_undo :
    ((p.perform (.configure p.settings.reversed)).perform (.configure p.settings.reversed.reversed)) = p := by
  rw [Settings.reversed_reversed]
  exact configure_undo h (p.settings.check_reversed.trans h.settings) h.count_le

theorem Coherent.forall₂_extends {n : UInt64} (hn : p.settings.halfSteps ≤ n) :
    List.Forall₂
      (fun t t' : Trajectory => t'.initial = t.initial ∧
        Extends (n.toNat - p.settings.halfSteps.toNat) t.states t'.states)
      p.trajectories (p.initials.map (p.formulas.traced { p.settings with halfSteps := n })) := by
  conv => arg 2; rw [h.trajectories_eq]
  rw [List.forall₂_map_left_iff, List.forall₂_map_right_iff, List.forall₂_same]
  exact fun initial _ => ⟨rfl, p.formulas.extends_traced p.settings hn initial⟩

end

end Portrait

/-- Where the answers of a field depend on nothing but the point and no answer is an error, the opposite step
gives the same states in the opposite order, and fewer steps give the middle of what more steps give. In a
portrait that operations can lead to, the opposite step is therefore accepted, reverses every trajectory and
leaves the rest alone, and taking it again restores the portrait. More steps, if they are not too many, are
accepted and lengthen every trajectory at both ends. -/
theorem reversal_and_windows :
    (∀ {σ : Type} (field : VectorField σ) (velocity : Point Float → Point Float),
      (∀ q s, resultFrom s (field q) = .ok (velocity q)) →
      ∀ (s : σ) (initial : Point Float) (dt : Float) (halfSteps : Nat), ∃ states,
        states.length = 2 * halfSteps ∧ resultFrom s (trace field initial dt halfSteps) = .ok states ∧
        resultFrom s (trace field initial (-dt) halfSteps) = .ok states.reverse ∧
        ∀ few ≤ halfSteps, resultFrom s (trace field initial dt few) =
          .ok ((states.drop (halfSteps - few)).take (2 * few))) ∧
    ∀ p : Portrait, Portrait.Reachable p →
      (let s := p.settings.reversed
       let q := p.perform (.configure s)
       p.result (.configure s) = .ok none ∧
       q = { p with settings := s, trajectories := p.trajectories.map .reversed } ∧
       q.result (.configure s.reversed) = .ok none ∧ q.perform (.configure s.reversed) = p) ∧
      ∀ n : UInt64, p.settings.halfSteps ≤ n → n.toNat ≤ Settings.maxHalfSteps →
        let s := { p.settings with halfSteps := n }
        p.result (.configure s) = .ok none ∧
        ∃ longer, p.perform (.configure s) = { p with settings := s, trajectories := longer } ∧
          List.Forall₂
            (fun t t' : Trajectory => t'.initial = t.initial ∧
              Extends (n.toNat - p.settings.halfSteps.toNat) t.states t'.states)
            p.trajectories longer := by
  constructor
  · intro σ field velocity hfield s initial dt halfSteps
    have hvalue := resultFrom_trace hfield s initial
    refine ⟨_, length_trace .., hvalue dt halfSteps, ?_, ?_⟩
    · rw [hvalue, trace_neg _ _ (Double.neg_neg dt)]
    · intro few hfew
      have hmiddle := (extends_trace (fun q => pure (velocity q)) initial dt hfew).middle
      rw [length_trace] at hmiddle
      rw [hvalue, hmiddle]
  · intro p hp
    have h := hp.coherent
    constructor
    · intro s q
      obtain ⟨hresult, hq⟩ := Portrait.configure_done h.configure_reversed
      refine ⟨hresult, hq, ?_, h.reversed_undo⟩
      rw [Portrait.result, Portrait.result_configure (h.perform _).code, p.settings.reversed_reversed, h.settings]
      rfl
    · intro n hn hmax s
      have hs := h.configure_eq (Settings.check_halfSteps h.settings hn hmax) rfl
      obtain ⟨hresult, hlonger⟩ := Portrait.configure_done hs
      exact ⟨hresult, _, hlonger, h.forall₂_extends hn⟩

theorem reversal_and_windows_parabola :
    let s := { Settings.standard with timeStep := 1, halfSteps := 1 }
    let long := { s with halfSteps := 2 }
    let start : Portrait :=
      ⟨s, ⟨⟨"y", .var .y⟩, ⟨"-x", .negate (.var .x)⟩⟩, ⟨[.fetch .y], [.fetch .x, .negate]⟩, []⟩
    let p := (start.perform (.add ⟨0, 0⟩)).perform (.applyFormulas "1" "x")
    let field := VectorField.numbered fun _ q => .ok ⟨1, q.x⟩
    Portrait.create s "y" "-x" = .ok start ∧ p.trajectories = [⟨⟨0, 0⟩, [⟨-1, 0.5⟩, ⟨1, 0.5⟩]⟩] ∧
    (p.perform (.configure s.reversed)).trajectories = [⟨⟨0, 0⟩, [⟨1, 0.5⟩, ⟨-1, 0.5⟩]⟩] ∧
    (p.perform (.configure s.reversed)).perform (.configure s.reversed.reversed) = p ∧
    p.settings.halfSteps ≤ 2 ∧ UInt64.toNat 2 ≤ Settings.maxHalfSteps ∧ p.result (.configure long) = .ok none ∧
    (∀ q calls, resultFrom calls (field q) = .ok ⟨1, q.x⟩) ∧
    ∃ states, states.length = 4 ∧ resultFrom 0 (trace field ⟨0, 0⟩ 1 2) = .ok states ∧
      resultFrom 0 (trace field ⟨0, 0⟩ (-1) 2) = .ok states.reverse ∧
      resultFrom 0 (trace field ⟨0, 0⟩ 1 1) = .ok ((states.drop 1).take 2) := by
  intro s long start p field
  have hstart : Portrait.create s "y" "-x" = .ok start := by decide +kernel
  have hp : Portrait.Reachable p := ((Portrait.Reachable.create hstart).perform _).perform _
  have htrajectories : p.trajectories = [⟨⟨0, 0⟩, [⟨-1, 0.5⟩, ⟨1, 0.5⟩]⟩] := by decide +kernel
  have hsettings : p.settings = s := by decide +kernel
  have hfield (q : Point Float) (calls : Nat) : resultFrom calls (field q) = .ok ⟨1, q.x⟩ := rfl
  obtain ⟨htrace, hportrait⟩ := reversal_and_windows
  obtain ⟨⟨-, hreversed, -, hundo⟩, hlong⟩ := hportrait p hp
  rw [hsettings] at hreversed hundo hlong
  have hle : s.halfSteps ≤ 2 := by decide +kernel
  have hmax : UInt64.toNat 2 ≤ Settings.maxHalfSteps := by decide
  refine ⟨hstart, htrajectories, ?_, hundo, by rw [hsettings]; exact hle, hmax, (hlong 2 hle hmax).1, hfield, ?_⟩
  · rw [hreversed, htrajectories]
    rfl
  · obtain ⟨states, hlength, hstates, hback, hfew⟩ := htrace field _ hfield 0 ⟨0, 0⟩ 1 2
    exact ⟨states, hlength, hstates, hback, hfew 1 (by decide)⟩

end PhasePortrait
