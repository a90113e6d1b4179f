import PhasePortrait.Flow.Trajectory
import PhasePortrait.Proofs.Calls

/-! # Steps of a trajectory, call by call

Every step asks the field four times, so the calls number `4 * i` to `4 * i + 3` belong to step number `i`. The
steps into the past come first. From the answers alone it is known where each call is made and which state each
step reaches, whatever the field is.
-/
namespace PhasePortrait

/-- Where a step from `s` asks for the `j`-th time, if its first call has the number `n`. -/
def stagePoint (v : Nat → Point Float) (n : Nat) (s : Point Float) (dt : Float) : Nat → Point Float
  | 0 => s
  | 1 => s + v n * (0.5 * dt)
  | 2 => s + v (n + 1) * (0.5 * dt)
  | _ => s + v (n + 2) * dt

/-- The state after a step from `s`, if its first call has the number `n`. -/
def advanced (v : Nat → Point Float) (n : Nat) (s : Point Float) (dt : Float) : Point Float :=
  s + (v n + v (n + 1) * (2 : Float) + v (n + 2) * (2 : Float) + v (n + 3)) * (dt / 6)

/-- The state after so many steps from `s`, if the first call of the first one has the number `n`. -/
def stateAfter (v : Nat → Point Float) (n : Nat) (s : Point Float) (dt : Float) : Nat → Point Float
  | 0 => s
  | i + 1 => advanced v (n + 4 * i) (stateAfter v n s dt i) dt

/-- Where call number `k` is made: the first `h` steps lead into the past, the others into the future, and both
set out from the initial point. -/
def pointAsked (v : Nat → Point Float) (initial : Point Float) (dt : Float) (h k : Nat) : Point Float :=
  if k / 4 < h then stagePoint v (4 * (k / 4)) (stateAfter v 0 initial (-dt) (k / 4)) (-dt) (k % 4)
  else stagePoint v (4 * (k / 4)) (stateAfter v (4 * h) initial dt (k / 4 - h)) dt (k % 4)

/-! ## Points depend on earlier answers -/

section
variable {v w : Nat → Point Float} {initial s : Point Float} {dt : Float} {h n : Nat}

theorem stagePoint_congr {j : Nat} (hj : j < 4) (h : ∀ k < n + j, v k = w k) :
    stagePoint v n s dt j = stagePoint w n s dt j := by
  obtain rfl | rfl | rfl | rfl : j = 0 ∨ j = 1 ∨ j = 2 ∨ j = 3 := by omega
  · rw [stagePoint, stagePoint]
  · simp only [stagePoint, h n (by omega)]
  · simp only [stagePoint, h (n + 1) (by omega)]
  · simp only [stagePoint, h (n + 2) (by omega)]

theorem stateAfter_congr {i : Nat} (h : ∀ k < n + 4 * i, v k = w k) :
    stateAfter v n s dt i = stateAfter w n s dt i := by
  induction i with
  | zero => rfl
  | succ i ih =>
    have hlast (j : Nat) (hj : j < 4) : v (n + 4 * i + j) = w (n + 4 * i + j) := h _ (by omega)
    have hstart : v (n + 4 * i) = w (n + 4 * i) := hlast 0 (by omega)
    rw [stateAfter, stateAfter, ih fun k hk => h k (by omega), advanced, advanced, hstart, hlast 1 (by omega),
      hlast 2 (by omega), hlast 3 (by omega)]

theorem pointAsked_congr {k : Nat} (hvw : ∀ j < k, v j = w j) :
    pointAsked v initial dt h k = pointAsked w initial dt h k := by
  have hstage : k % 4 < 4 := Nat.mod_lt k (by omega)
  have hcalls : ∀ j < 4 * (k / 4) + k % 4, v j = w j := fun j hj => hvw j (by omega)
  unfold pointAsked
  split
  · rw [stateAfter_congr fun j hj => hvw j (by omega), stagePoint_congr hstage hcalls]
  · rw [stateAfter_congr fun j hj => hvw j (by omega), stagePoint_congr hstage hcalls]

end

/-! ## The calls of a step and of a trajectory -/

section
variable {answer : Answers} {points v : Nat → Point Float} {s : Point Float} {dt : Float} {n : Nat}

theorem makes_rungeKutta (hpoints : ∀ j < 4, points (n + j) = stagePoint v n s dt j) :
    Makes answer points v n 4 (rungeKutta (recording answer) s dt) (advanced v n s dt) := by
  have hask (j : Nat) (hj : j < 4) :
      Makes answer points v (n + j) 1 (recording answer (stagePoint v n s dt j)) (v (n + j)) := by
    rw [← hpoints j hj]
    exact makes_ask (n + j)
  unfold rungeKutta
  dsimp only
  refine Makes.bind (l := 1) (m := 3) (hask 0 (by omega)) ?_
  refine Makes.bind (l := 1) (m := 2) (hask 1 (by omega)) ?_
  refine Makes.bind (l := 1) (m := 1) (hask 2 (by omega)) ?_
  refine Makes.bind (l := 1) (m := 0) (hask 3 (by omega)) ?_
  exact makes_pure (n + 4) (advanced v n s dt)

/-- The steps number `i` to `i + steps - 1` of one direction. -/
theorem makes_march {i steps : Nat} (seen : List (Point Float)) (hpoints : ∀ m < i + steps, ∀ j < 4,
      points (n + 4 * m + j) = stagePoint v (n + 4 * m) (stateAfter v n s dt m) dt j) :
    Makes answer points v (n + 4 * i) (4 * steps) (march (recording answer) dt steps (stateAfter v n s dt i) seen)
      (((List.range' i steps).map fun m => stateAfter v n s dt (m + 1)).reverse ++ seen) := by
  induction steps generalizing i seen with
  | zero => exact makes_pure _ seen
  | succ steps ih =>
    have hstep : Makes answer points v (n + 4 * i) 4 (rungeKutta (recording answer) (stateAfter v n s dt i) dt)
        (stateAfter v n s dt (i + 1)) := makes_rungeKutta (hpoints i (by omega))
    have hrest := ih (i := i + 1) (stateAfter v n s dt (i + 1) :: seen) fun m hm => hpoints m (by omega)
    have hcalls : 4 * (steps + 1) = 4 + 4 * steps := by omega
    rw [hcalls, List.range'_succ, List.map_cons, List.reverse_cons, List.append_assoc, List.singleton_append]
    exact hstep.bind hrest

/-- All steps of one direction, with the state of the last one first. -/
theorem makes_direction {h : Nat} (hpoints : ∀ m < h, ∀ j < 4,
      points (n + 4 * m + j) = stagePoint v (n + 4 * m) (stateAfter v n s dt m) dt j) :
    Makes answer points v n (4 * h) (march (recording answer) dt h s [])
      ((List.range h).map fun m => stateAfter v n s dt (m + 1)).reverse := by
  rw [List.range_eq_range', ← List.append_nil (List.reverse _)]
  exact makes_march (i := 0) [] fun m hm => hpoints m (by omega)

end

section
variable (v : Nat → Point Float) (initial : Point Float) (dt : Float) {h m j : Nat}

theorem pointAsked_past (hm : m < h) (hj : j < 4) : pointAsked v initial dt h (4 * m + j) =
    stagePoint v (4 * m) (stateAfter v 0 initial (-dt) m) (-dt) j := by
  have hstep : (4 * m + j) / 4 = m := by omega
  have hstage : (4 * m + j) % 4 = j := by omega
  rw [pointAsked, hstep, hstage, if_pos hm]

theorem pointAsked_future (hj : j < 4) : pointAsked v initial dt h (4 * h + 4 * m + j) =
    stagePoint v (4 * h + 4 * m) (stateAfter v (4 * h) initial dt m) dt j := by
  have hstep : (4 * h + 4 * m + j) / 4 = h + m := by omega
  have hstage : (4 * h + 4 * m + j) % 4 = j := by omega
  rw [pointAsked, hstep, hstage, if_neg (Nat.not_lt.mpr (Nat.le_add_right h m)), Nat.add_sub_cancel_left,
    Nat.mul_add]

/-- The states of a trajectory in the order of time. -/
def statesAfter (h : Nat) : List (Point Float) :=
  ((List.range h).map fun i => stateAfter v 0 initial (-dt) (i + 1)).reverse ++
    (List.range h).map fun i => stateAfter v (4 * h) initial dt (i + 1)

theorem makes_trace (answer : Answers) (h : Nat) :
    Makes answer (pointAsked v initial dt h) v 0 (8 * h) (trace (recording answer) initial dt h)
      (statesAfter v initial dt h) := by
  have hpast : Makes answer (pointAsked v initial dt h) v 0 (4 * h) (march (recording answer) (-dt) h initial [])
      ((List.range h).map fun m => stateAfter v 0 initial (-dt) (m + 1)).reverse := by
    apply makes_direction
    intro m hm j hj
    rw [Nat.zero_add]
    exact pointAsked_past v initial dt hm hj
  have hfuture : Makes answer (pointAsked v initial dt h) v (0 + 4 * h) (4 * h)
      (march (recording answer) dt h initial [])
      ((List.range h).map fun m => stateAfter v (4 * h) initial dt (m + 1)).reverse := by
    rw [Nat.zero_add]
    exact makes_direction fun m _ j hj => pointAsked_future v initial dt hj
  have hend : Makes answer (pointAsked v initial dt h) v (0 + 4 * h + 4 * h) 0
      (pure (statesAfter v initial dt h)) (statesAfter v initial dt h) := makes_pure ..
  have hcalls : 8 * h = 4 * h + (4 * h + 0) := by omega
  rw [hcalls]
  refine hpast.bind (hfuture.bind ?_)
  rw [List.reverse_reverse]
  exact hend

theorem length_statesAfter {h : Nat} : (statesAfter v initial dt h).length = 2 * h := by
  rw [statesAfter, List.length_append, List.length_reverse, List.length_map, List.length_map, List.length_range]
  omega

theorem getElem?_statesAfter {h i : Nat} (hi : i < h) :
    (statesAfter v initial dt h)[h - 1 - i]? = some (stateAfter v 0 initial (-dt) (i + 1)) ∧
    (statesAfter v initial dt h)[h + i]? = some (stateAfter v (4 * h) initial dt (i + 1)) := by
  have hlast : h - 1 - (h - 1 - i) = i := by omega
  constructor
  · rw [statesAfter, List.getElem?_append_left (by simp; omega), List.getElem?_reverse (by simp; omega),
      List.length_map, List.length_range, hlast, List.getElem?_map, List.getElem?_range hi]
    rfl
  · rw [statesAfter, List.getElem?_append_right (by simp), List.length_reverse, List.length_map, List.length_range,
      Nat.add_sub_cancel_left, List.getElem?_map, List.getElem?_range hi]
    rfl

end

/-- A trajectory of `2 * h` states takes `8 * h` calls, the first half of them for the past. If none fails, the
states in the order of time are those that so many steps lead to from the initial point, and nothing else; every
step asks at its four stages and moves on by the weighted mean of the answers. The first call that fails ends the
trajectory with its error, and nothing more is asked. There is no other way in which a field can answer. -/
theorem trace_calls (answer : Answers) (initial : Point Float) (dt : Float) (h : Nat) :
    let asked := fun v => pointAsked v initial dt h
    let past := fun v => stateAfter v 0 initial (-dt)
    let future := fun v => stateAfter v (4 * h) initial dt
    let run := (trace (recording answer) initial dt h).run.run (#[], 0)
    (∀ v, Answered answer (asked v) v (8 * h) →
      (∃ states, run = (.ok states, record (asked v) (8 * h)) ∧ states.length = 2 * h ∧
        ∀ i < h, states[h - 1 - i]? = some (past v (i + 1)) ∧ states[h + i]? = some (future v (i + 1))) ∧
      ∀ i < h,
        (rungeKutta (recording answer) (past v i) (-dt)).run.run (record (asked v) (4 * i)) =
          (.ok (past v (i + 1)), record (asked v) (4 * i + 4)) ∧
        (rungeKutta (recording answer) (future v i) dt).run.run (record (asked v) (4 * h + 4 * i)) =
          (.ok (future v (i + 1)), record (asked v) (4 * h + 4 * i + 4))) ∧
    (∀ v k e, k < 8 * h → FailsFirst answer (asked v) v k e → run = (.error e, record (asked v) (k + 1))) ∧
    ∃ v, Answered answer (asked v) v (8 * h) ∨ ∃ k < 8 * h, ∃ e, FailsFirst answer (asked v) v k e := by
  intro asked past future run
  refine ⟨?_, ?_, ?_⟩
  · intro v hv
    refine ⟨⟨_, (makes_trace v initial dt answer h).run_eq hv, length_statesAfter v initial dt,
      fun i hi => getElem?_statesAfter v initial dt hi⟩, ?_⟩
    intro i hi
    have hpast : Makes answer (asked v) v (4 * i) 4 (rungeKutta (recording answer) (past v i) (-dt))
        (advanced v (4 * i) (past v i) (-dt)) :=
      makes_rungeKutta fun j hj => pointAsked_past v initial dt hi hj
    have hfuture : Makes answer (asked v) v (4 * h + 4 * i) 4 (rungeKutta (recording answer) (future v i) dt)
        (advanced v (4 * h + 4 * i) (future v i) dt) :=
      makes_rungeKutta fun j hj => pointAsked_future v initial dt hj
    have hreached : past v (i + 1) = advanced v (4 * i) (past v i) (-dt) := by
      change advanced v (0 + 4 * i) (past v i) (-dt) = _
      rw [Nat.zero_add]
    rw [hreached]
    exact ⟨hpast.finishes (hv.mono (by omega)), hfuture.finishes (hv.mono (by omega))⟩
  · intro v k e hk hfail
    exact (makes_trace v initial dt answer h).run_eq_error hk hfail
  · exact exists_answered asked (fun v w k hvw => pointAsked_congr hvw) answer (8 * h)

/-- One step each way; a field that fails when it is asked for the sixth time ends the step into the future. -/
theorem trace_calls_sixth :
    let v : Nat → Point Float := fun k => ⟨Float.ofNat k, 1⟩
    let failing : Answers := fun k _ => if k = 5 then .error (.unknownName 0 "q") else .ok (v k)
    let asked := pointAsked v ⟨0, 0⟩ 6 1
    Answered (fun k _ => .ok (v k)) asked v 8 ∧
    (∃ states, (trace (recording fun k _ => .ok (v k)) ⟨0, 0⟩ 6 1).run.run (#[], 0) = (.ok states, record asked 8) ∧
      states.length = 2 ∧ states[0]? = some ⟨-9, -6⟩ ∧ states[1]? = some ⟨33, 6⟩) ∧
    FailsFirst failing asked v 5 (.unknownName 0 "q") ∧
    (trace (recording failing) ⟨0, 0⟩ 6 1).run.run (#[], 0) =
      (.error (.unknownName 0 "q"), #[⟨0, 0⟩, ⟨0, -3⟩, ⟨-3, -3⟩, ⟨-12, -6⟩, ⟨0, 0⟩, ⟨12, 3⟩], 6) := by
  intro v failing asked
  have hall : Answered (fun k _ => .ok (v k)) asked v 8 := fun _ _ => rfl
  have hfail : FailsFirst failing asked v 5 (.unknownName 0 "q") := ⟨fun k hk => if_neg (by omega), if_pos rfl⟩
  have hpast : stateAfter v 0 ⟨0, 0⟩ (-6) 1 = ⟨-9, -6⟩ := by decide +kernel
  have hfuture : stateAfter v 4 ⟨0, 0⟩ 6 1 = ⟨33, 6⟩ := by decide +kernel
  have hrecord : record asked 6 = (#[⟨0, 0⟩, ⟨0, -3⟩, ⟨-3, -3⟩, ⟨-12, -6⟩, ⟨0, 0⟩, ⟨12, 3⟩], 6) := by decide +kernel
  obtain ⟨⟨states, hrun, hlength, hstates⟩, -⟩ := (trace_calls (fun k _ => .ok (v k)) ⟨0, 0⟩ 6 1).1 v hall
  obtain ⟨hfirst, hsecond⟩ := hstates 0 (by omega)
  refine ⟨hall, ⟨states, hrun, hlength, hfirst.trans (congrArg some hpast), hsecond.trans (congrArg some hfuture)⟩,
    hfail, ?_⟩
  rw [← hrecord]
  exact (trace_calls failing ⟨0, 0⟩ 6 1).2.1 v 5 _ (by omega) hfail

end PhasePortrait
