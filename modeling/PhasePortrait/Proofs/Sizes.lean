import Mathlib.Algebra.Group.Nat.Defs
import PhasePortrait.Export.Vertices
import PhasePortrait.Proofs.Comparison
import PhasePortrait.Proofs.Survival

/-! # Sizes

Settings are accepted exactly if they are usable. The limits in them are those that make every size a portrait
works with a small number: it is the same in words of 32 bits as it is among the numbers, and where the limit
on trajectories is reached one of them has to give way and no more.
-/
namespace PhasePortrait

/-! ## Usable settings -/

/-- What is asked of settings. The number of nodes is a product of numbers, not of words. -/
structure Settings.Usable (s : Settings) : Prop where
  corners : ∀ v ∈ [s.bounds.minX, s.bounds.minY, s.bounds.maxX, s.bounds.maxY], v.isFinite = true
  x_lt : s.bounds.minX < s.bounds.maxX
  y_lt : s.bounds.minY < s.bounds.maxY
  rows : 1 ≤ s.grid.rows.toNat
  cols : 1 ≤ s.grid.cols.toNat
  nodes : s.grid.rows.toNat * s.grid.cols.toNat ≤ 250000
  arrowLength : s.arrowLength.isFinite = true ∧ 0 < s.arrowLength
  timeStep : s.timeStep.isFinite = true ∧ (s.timeStep < 0 ∨ 0 < s.timeStep)
  halfSteps : 1 ≤ s.halfSteps.toNat ∧ s.halfSteps.toNat ≤ 100000
  maxTrajectories : 1 ≤ s.maxTrajectories.toNat ∧ s.maxTrajectories.toNat ≤ 100

theorem Bounds.check_eq_ok_iff {b : Bounds Float} :
    b.check = .ok () ↔
      (∀ v ∈ [b.minX, b.minY, b.maxX, b.maxY], v.isFinite = true) ∧ b.minX < b.maxX ∧ b.minY < b.maxY := by
  have hcorners : ¬([b.minX, b.minY, b.maxX, b.maxY].any fun v => !v.isFinite) = true ↔
      ∀ v ∈ [b.minX, b.minY, b.maxX, b.maxY], v.isFinite = true := by simp
  rw [check, ite_error_eq_ok_iff, ite_error_eq_ok_iff, ite_error_eq_ok_iff, hcorners]
  refine and_congr_right fun h => ?_
  rw [Double.not_le_iff (h b.minX (by simp)) (h b.maxX (by simp)),
    Double.not_le_iff (h b.minY (by simp)) (h b.maxY (by simp))]
  simp only [and_true]

/-- A saturated product is beyond the limit as the true one is, and 0 only if a factor is. -/
theorem Grid.check_eq_ok_iff {g : Grid} :
    g.check = .ok () ↔ 1 ≤ g.rows.toNat ∧ 1 ≤ g.cols.toNat ∧ g.rows.toNat * g.cols.toNat ≤ maxNodes := by
  have hlimit : maxNodes < UInt64.size - 1 := by decide
  have hsize : g.size.toNat = min (g.rows.toNat * g.cols.toNat) (UInt64.size - 1) := g.toNat_size
  have hempty : g.isEmpty = true ↔ g.rows.toNat * g.cols.toNat = 0 := by
    rw [isEmpty, beq_iff_eq, ← UInt64.toNat_inj, hsize, UInt64.toNat_zero]
    omega
  have hsaturated (n : Nat) : ¬min n (UInt64.size - 1) > maxNodes ↔ n ≤ maxNodes := by omega
  rw [check, ite_error_eq_ok_iff, ite_error_eq_ok_iff, hempty, hsize, hsaturated, Nat.mul_eq_zero, not_or]
  constructor
  · rintro ⟨⟨hr, hc⟩, hn, -⟩
    exact ⟨Nat.pos_of_ne_zero hr, Nat.pos_of_ne_zero hc, hn⟩
  · rintro ⟨hr, hc, hn⟩
    exact ⟨⟨Nat.ne_of_gt hr, Nat.ne_of_gt hc⟩, hn, rfl⟩

theorem Settings.check_eq_ok_iff_usable {s : Settings} : s.check = .ok () ↔ s.Usable := by
  have hzero : (0 : Float).isFinite = true := by decide
  have harrow : ¬(!s.arrowLength.isFinite || decide (s.arrowLength ≤ 0)) = true ↔
      s.arrowLength.isFinite = true ∧ 0 < s.arrowLength := by
    rw [Bool.or_eq_true, not_or, Bool.not_eq_true, Bool.not_eq_false', decide_eq_true_iff]
    exact and_congr_right fun h => Double.not_le_iff hzero h
  have hstep : ¬(!s.timeStep.isFinite || s.timeStep == 0) = true ↔
      s.timeStep.isFinite = true ∧ (s.timeStep < 0 ∨ 0 < s.timeStep) := by
    rw [Bool.or_eq_true, not_or, Bool.not_eq_true, Bool.not_eq_false']
    exact and_congr_right fun h => Double.not_beq_iff h hzero
  have hword (n : UInt64) : ¬n = 0 ↔ 1 ≤ n.toNat := by
    rw [← UInt64.toNat_inj, UInt64.toNat_zero]
    omega
  rw [check_eq_ok_iff, Bounds.check_eq_ok_iff, Grid.check_eq_ok_iff, harrow, hstep, hword, hword, Nat.not_lt,
    Nat.not_lt]
  constructor
  · rintro ⟨⟨hc, hx, hy⟩, ⟨hr, hl, hn⟩, ha, ht, hh, hhl, hm, hml⟩
    exact ⟨hc, hx, hy, hr, hl, hn, ha, ht, ⟨hh, hhl⟩, hm, hml⟩
  · intro h
    exact ⟨⟨h.corners, h.x_lt, h.y_lt⟩, ⟨h.rows, h.cols, h.nodes⟩, h.arrowLength, h.timeStep, h.halfSteps.1,
      h.halfSteps.2, h.maxTrajectories.1, h.maxTrajectories.2⟩

/-! ## Words -/

theorem toNat_ofNat_mul {w a b : Nat} (h : a * b < 2 ^ w) :
    (BitVec.ofNat w a * BitVec.ofNat w b).toNat = a * b := by
  rw [← BitVec.ofNat_mul, BitVec.toNat_ofNat, Nat.mod_eq_of_lt h]

theorem toNat_ofNat_succ_sub_one {w n : Nat} (h : n + 1 < 2 ^ w) :
    (BitVec.ofNat w (n + 1) - BitVec.ofNat w 1).toNat = n := by
  rw [BitVec.ofNat_add, BitVec.add_sub_cancel, BitVec.toNat_ofNat, Nat.mod_eq_of_lt (Nat.lt_of_succ_lt h)]

/-! ## Giving way, one by one -/

/-- The oldest entries of a queue leave it one by one as long as it is not shorter than the limit: so many
rounds end with what is kept. -/
inductive Evicts {τ : Type} (limit : Nat) : Nat → List τ → List τ → Prop
  | done {queue : List τ} : queue.length < limit → Evicts limit 0 queue queue
  | round {rounds : Nat} {queue kept : List τ} : limit ≤ queue.length → Evicts limit rounds queue.tail kept →
      Evicts limit (rounds + 1) queue kept

theorem evicts_iff {τ : Type} {limit rounds : Nat} {queue kept : List τ} :
    Evicts limit rounds queue kept ↔
      0 < limit ∧ rounds = queue.length + 1 - limit ∧ kept = queue.drop rounds := by
  constructor
  · intro h
    induction h with
    | done hlt => exact ⟨by omega, by omega, rfl⟩
    | @round rounds queue kept hle _ ih =>
      obtain ⟨hpos, hrounds, hkept⟩ := ih
      rw [List.length_tail] at hrounds
      exact ⟨hpos, by omega, by rw [hkept, List.drop_tail]⟩
  · rintro ⟨hpos, hrounds, rfl⟩
    induction rounds generalizing queue with
    | zero => exact .done (by omega)
    | succ rounds ih =>
      have htail : rounds = queue.tail.length + 1 - limit := by
        rw [List.length_tail]
        omega
      have hrest : Evicts limit rounds queue.tail (queue.tail.drop rounds) := ih htail
      rw [List.drop_tail] at hrest
      exact .round (by omega) hrest

namespace Portrait

/-! ## Lengths of what is stored and drawn -/

theorem length_stateVertices (states : List (Point Float)) : (stateVertices states).length = 2 * states.length := by
  simp [stateVertices, Point.vertex, Point.toList, Nat.mul_comm]

theorem length_arrowVertices (arrows : List Arrow) : (arrowVertices arrows).length = 4 * arrows.length := by
  simp [arrowVertices, Point.vertex, Point.toList, Nat.mul_comm]

theorem length_arrows (f : FormulaPair) (s : Settings) : (f.arrows s).length = s.grid.count := by
  rw [FormulaPair.arrows, sampleArrows, List.idRun_ofFnM, List.length_ofFn]

theorem arrowBuffer_of_compile {p : Portrait} (h : p.code = p.formulas.compile) :
    p.arrowBuffer = .ok (arrowVertices (p.formulas.arrows p.settings)) := by
  rw [arrowBuffer, arrows_of_compile h]
  rfl

theorem Coherent.length_states {p : Portrait} (h : p.Coherent) {t : Trajectory} (ht : t ∈ p.trajectories) :
    t.states.length = 2 * p.settings.halfSteps.toNat := by
  rw [h.traced t ht]
  exact FormulaPair.length_traced ..

theorem count_of_index? {p : Portrait} (h : p.Coherent) {o : Operation} {index : Nat} (hi : p.index? o = some index) :
    (p.perform o).count = index + 1 := by
  obtain ⟨initial, -, hp, hr⟩ := perform_of_index? hi
  rw [result_add h.code] at hr
  cases hr
  rw [hp, add_of_compile h.code]
  simp [count]

/-- At most one trajectory gives way to a new one. -/
theorem Coherent.evicts {p : Portrait} (h : p.Coherent) {o : Operation} {initial : Point Float}
    (ha : p.added? o = some initial) :
    ∃ rounds ≤ 1, ∃ kept, Evicts p.settings.maxTrajectories.toNat rounds p.trajectories kept ∧
      (p.perform o).trajectories = kept ++ [p.formulas.traced p.settings initial] := by
  obtain ⟨index, -, hp, -⟩ := perform_of_added? ha
  have hpos := Settings.maxTrajectories_pos h.settings
  have hcount : p.trajectories.length ≤ p.settings.maxTrajectories.toNat := h.count_le
  refine ⟨p.trajectories.length + 1 - p.settings.maxTrajectories.toNat, by omega, _,
    evicts_iff.mpr ⟨hpos, rfl, rfl⟩, ?_⟩
  rw [hp, add_of_compile h.code]
  rfl

end Portrait

/-- Settings are accepted exactly if they are usable. In a portrait that operations can lead to, the numbers of
states and of numbers to draw, and the index of a new trajectory as well, are in words of 32 or more bits what
they are among the numbers. With a limit of 0 trajectories would give way without end; but with the limit of such
a portrait that ends in one way only, after at most one of them has, and leaves what the new one comes after. -/
theorem check_iff_usable_and_sizes_fit :
    (∀ s : Settings, s.check = .ok () ↔ s.Usable) ∧
    (∀ (rounds : Nat) (queue kept : List Trajectory), ¬Evicts 0 rounds queue kept) ∧
    ∀ p : Portrait, Portrait.Reachable p → ∀ w ≥ 32,
      let word := BitVec.ofNat w
      let halfSteps := p.settings.halfSteps.toNat
      let nodes := p.settings.grid.rows.toNat * p.settings.grid.cols.toNat
      let limit := p.settings.maxTrajectories.toNat
      ((word 2 * word halfSteps).toNat = 2 * halfSteps ∧
        ∀ t ∈ p.trajectories, t.states.length = 2 * halfSteps) ∧
      ((word 4 * word halfSteps).toNat = 4 * halfSteps ∧
        ∀ index buffer, p.trajectoryBuffer index = some buffer → buffer.length = 4 * halfSteps) ∧
      ((word 4 * (word p.settings.grid.rows.toNat * word p.settings.grid.cols.toNat)).toNat = 4 * nodes ∧
        ∃ buffer, p.arrowBuffer = .ok buffer ∧ buffer.length = 4 * nodes) ∧
      ∀ o : Portrait.Operation,
        (∀ index, p.index? o = some index →
          (p.perform o).count = index + 1 ∧ (word (p.perform o).count - word 1).toNat = index) ∧
        ∀ initial, p.added? o = some initial →
          ∃ rounds ≤ 1, ∃ kept t, Evicts limit rounds p.trajectories kept ∧
            (p.perform o).trajectories = kept ++ [t] ∧
            ∀ rounds' kept', Evicts limit rounds' p.trajectories kept' → rounds' = rounds ∧ kept' = kept := by
  refine ⟨fun s => Settings.check_eq_ok_iff_usable, fun rounds queue kept he => ?_, ?_⟩
  · exact Nat.lt_irrefl 0 (evicts_iff.mp he).1
  · intro p hp w hw word halfSteps nodes limit
    have h := hp.coherent
    have hword : 2 ^ 32 ≤ 2 ^ w := Nat.pow_le_pow_right (by decide) hw
    have husable := Settings.check_eq_ok_iff_usable.mp h.settings
    have hsteps : halfSteps ≤ 100000 := husable.halfSteps.2
    have hnodes : nodes ≤ 250000 := husable.nodes
    refine ⟨⟨toNat_ofNat_mul (by omega), fun t ht => h.length_states ht⟩, ⟨toNat_ofNat_mul (by omega), ?_⟩, ⟨?_, ?_⟩,
      fun o => ⟨?_, ?_⟩⟩
    · intro index buffer hb
      obtain ⟨t, ht, rfl⟩ := Option.map_eq_some_iff.mp hb
      have hlength := h.length_states (List.mem_of_getElem? ht)
      rw [Portrait.length_stateVertices, hlength]
      omega
    · rw [← BitVec.ofNat_mul]
      exact toNat_ofNat_mul (by omega)
    · refine ⟨_, Portrait.arrowBuffer_of_compile h.code, ?_⟩
      rw [Portrait.length_arrowVertices, Portrait.length_arrows]
      rfl
    · intro index hi
      have hcount := Portrait.count_of_index? h hi
      have hlimit := (h.perform o).count_le
      have hmax := (Settings.check_eq_ok_iff_usable.mp (h.perform o).settings).maxTrajectories.2
      rw [hcount] at hlimit ⊢
      exact ⟨rfl, toNat_ofNat_succ_sub_one (by omega)⟩
    · intro initial ha
      obtain ⟨rounds, hrounds, kept, he, ht⟩ := h.evicts ha
      refine ⟨rounds, hrounds, kept, _, he, ht, ?_⟩
      intro rounds' kept' he'
      obtain ⟨-, hr, hk⟩ := evicts_iff.mp he
      obtain ⟨-, hr', hk'⟩ := evicts_iff.mp he'
      rw [hk, hk', hr, hr']
      exact ⟨rfl, rfl⟩

/-- The limit of one trajectory is reached, and sizes are counted in words of 32 bits. -/
theorem check_iff_usable_and_sizes_fit_full :
    let s := { Settings.standard with timeStep := 1, halfSteps := 1, maxTrajectories := 1 }
    let start : Portrait :=
      ⟨s, ⟨⟨"y", .var .y⟩, ⟨"-x", .negate (.var .x)⟩⟩, ⟨[.fetch .y], [.fetch .x, .negate]⟩, []⟩
    let p := start.perform (.add ⟨0, 0⟩)
    let o := Portrait.Operation.addAtPixel 400 300 800 600
    Portrait.create s "y" "-x" = .ok start ∧ s.Usable ∧
    ¬{ s with grid := ⟨4294967296, 4294967296⟩ }.Usable ∧
    p.index? o = some 0 ∧ p.added? o = some ⟨0, 0⟩ ∧
    (BitVec.ofNat 32 (p.perform o).count - BitVec.ofNat 32 1).toNat = 0 ∧
    (∃ rounds ≤ 1, ∃ kept, Evicts 1 rounds p.trajectories kept) ∧
    (BitVec.ofNat 32 4 * (BitVec.ofNat 32 25 * BitVec.ofNat 32 25)).toNat = 2500 := by
  intro s start p o
  have hstart : Portrait.create s "y" "-x" = .ok start := by decide +kernel
  have hp : Portrait.Reachable p := (Portrait.Reachable.create hstart).perform _
  have hs : s.check = .ok () := by decide +kernel
  have hlarge : ¬{ s with grid := ⟨4294967296, 4294967296⟩ }.check = .ok () := by decide +kernel
  have hindex : p.index? o = some 0 := by decide +kernel
  have hadded : p.added? o = some ⟨0, 0⟩ := by decide +kernel
  have hlimit : p.settings.maxTrajectories.toNat = 1 := by decide +kernel
  have hgrid : p.settings.grid.rows.toNat = 25 ∧ p.settings.grid.cols.toNat = 25 := by decide +kernel
  obtain ⟨hcheck, -, hsizes⟩ := check_iff_usable_and_sizes_fit
  obtain ⟨-, -, ⟨hnodes, -⟩, hoperation⟩ := hsizes p hp 32 (Nat.le_refl 32)
  obtain ⟨hresult, heviction⟩ := hoperation o
  obtain ⟨rounds, hrounds, kept, -, he, -⟩ := heviction _ hadded
  rw [hlimit] at he
  rw [hgrid.1, hgrid.2] at hnodes
  exact ⟨hstart, (hcheck s).mp hs, fun h => hlarge ((hcheck _).mpr h), hindex, hadded, (hresult 0 hindex).2,
    ⟨rounds, hrounds, kept, he⟩, hnodes⟩

end PhasePortrait
