import PhasePortrait.Proofs.Sampling
import PhasePortrait.Proofs.Sizes

/-! # What the buffers hold

A buffer is made of records of one length, one for each arrow or state, in their order. So a number of it is found by
the number of its record and its place in there, for the arrow at a node by row and column. Nothing that is drawn is
left over from an earlier formula or an earlier setting.
-/
namespace PhasePortrait

/-! ## Records of one length -/

theorem getElem?_flatMap_of_length {α β : Type} {record : α → List β} {size : Nat}
    (h : ∀ a, (record a).length = size) (l : List α) {k i : Nat} (hi : i < size) :
    (l.flatMap record)[size * k + i]? = l[k]?.bind fun a => (record a)[i]? := by
  induction l generalizing k with
  | nil => rfl
  | cons a l ih =>
    rw [List.flatMap_cons]
    cases k with
    | zero =>
      rw [List.getElem?_append_left (by rw [h]; omega), Nat.mul_zero, Nat.zero_add]
      rfl
    | succ k =>
      have hplace : size * (k + 1) + i = size + (size * k + i) := by
        rw [Nat.mul_succ]
        omega
      rw [hplace, List.getElem?_append_right (by rw [h]; omega), h, Nat.add_sub_cancel_left, ih]
      rfl

/-- Four numbers for an arrow: its origin, then its direction. -/
theorem arrowVertices_entries {arrows : List Arrow} {k : Nat} {a : Arrow} (ha : arrows[k]? = some a) :
    (arrowVertices arrows)[4 * k]? = some (toSingle a.origin.x) ∧
    (arrowVertices arrows)[4 * k + 1]? = some (toSingle a.origin.y) ∧
    (arrowVertices arrows)[4 * k + 2]? = some (toSingle a.direction.x) ∧
    (arrowVertices arrows)[4 * k + 3]? = some (toSingle a.direction.y) := by
  have hlength (a : Arrow) : (a.origin.vertex ++ a.direction.vertex).length = 4 := rfl
  have hentry {i : Nat} (hi : i < 4) :
      (arrowVertices arrows)[4 * k + i]? = (a.origin.vertex ++ a.direction.vertex)[i]? := by
    rw [arrowVertices, getElem?_flatMap_of_length hlength arrows hi, ha]
    rfl
  exact ⟨hentry (i := 0) (by decide), hentry (by decide), hentry (by decide), hentry (by decide)⟩

/-- Two numbers for a state. -/
theorem stateVertices_entries {states : List (Point Float)} {j : Nat} {s : Point Float} (hs : states[j]? = some s) :
    (stateVertices states)[2 * j]? = some (toSingle s.x) ∧ (stateVertices states)[2 * j + 1]? = some (toSingle s.y) := by
  have hlength (s : Point Float) : s.vertex.length = 2 := rfl
  have hentry {i : Nat} (hi : i < 2) : (stateVertices states)[2 * j + i]? = s.vertex[i]? := by
    rw [stateVertices, getElem?_flatMap_of_length hlength states hi, hs]
    rfl
  exact ⟨hentry (i := 0) (by decide), hentry (by decide)⟩

/-! ## Arrows and states -/

/-- The arrow of a row and a column is the one at its node, along the velocity there. -/
theorem FormulaPair.getElem?_arrows (f : FormulaPair) (s : Settings) {row col : Nat} (hrow : row < s.grid.rows.toNat)
    (hcol : col < s.grid.cols.toNat) :
    (f.arrows s)[row * s.grid.cols.toNat + col]? =
      some ⟨s.grid.node s.bounds row col, direction (f.eval (s.grid.node s.bounds row col)) s.arrowLength⟩ := by
  let arrow (k : Nat) : Arrow :=
    ⟨s.grid.nodeAt s.bounds k, direction (f.eval (s.grid.nodeAt s.bounds k)) s.arrowLength⟩
  have harrows : f.arrows s = List.ofFn fun k : Fin s.grid.count => arrow k := by
    rw [arrows, sampleArrows, List.idRun_ofFnM]
    rfl
  rw [harrows, getElem?_ofFn_number s.grid arrow hrow hcol]
  dsimp only [arrow]
  rw [s.grid.nodeAt_number s.bounds hcol]

namespace Portrait

theorem axesBuffer_eq (p : Portrait) :
    let b := p.settings.bounds
    p.axesBuffer =
      (if b.minY ≤ 0 ∧ 0 ≤ b.maxY then [toSingle b.minX, 0, toSingle b.maxX, 0] else []) ++
      (if b.minX ≤ 0 ∧ 0 ≤ b.maxX then [0, toSingle b.minY, 0, toSingle b.maxY] else []) := by
  intro b
  have hzero : toSingle 0 = 0 := by decide +kernel
  have hsegment (c : Prop) [Decidable c] (s : Segment) :
      (if c then [s] else []).flatMap (fun s => s.first.vertex ++ s.last.vertex) =
        if c then s.first.vertex ++ s.last.vertex else [] := by
    split <;> simp
  rw [axesBuffer, Bounds.axes, List.flatMap_append, hsegment, hsegment]
  simp only [Point.vertex, Point.map, Point.toList, hzero]
  rfl

variable {p : Portrait}

theorem arrowBuffer_entries (h : p.Coherent) :
    let node := p.settings.grid.node p.settings.bounds
    ∃ buffer, p.arrowBuffer = .ok buffer ∧
      buffer.length = 4 * (p.settings.grid.rows.toNat * p.settings.grid.cols.toNat) ∧
      ∀ row < p.settings.grid.rows.toNat, ∀ col < p.settings.grid.cols.toNat,
        ∃ v, scanningField p.formulas.dx.text p.formulas.dy.text (node row col) = .ok v ∧
          let k := row * p.settings.grid.cols.toNat + col
          buffer[4 * k]? = some (toSingle (node row col).x) ∧
          buffer[4 * k + 1]? = some (toSingle (node row col).y) ∧
          buffer[4 * k + 2]? = some (toSingle (direction v p.settings.arrowLength).x) ∧
          buffer[4 * k + 3]? = some (toSingle (direction v p.settings.arrowLength).y) := by
  intro node
  refine ⟨_, arrowBuffer_of_compile h.code, ?_, ?_⟩
  · rw [length_arrowVertices, length_arrows]
    rfl
  · intro row hrow col hcol
    have hvelocity : scanningField p.formulas.dx.text p.formulas.dy.text (node row col) =
        .ok (p.formulas.eval (node row col)) := FormulaPair.scanningField_of_ofTexts h.formulas _
    have harrow := p.formulas.getElem?_arrows p.settings hrow hcol
    obtain ⟨hx, hy, hdx, hdy⟩ := arrowVertices_entries harrow
    exact ⟨p.formulas.eval (node row col), hvelocity, hx, hy, hdx, hdy⟩

theorem isSome_trajectoryBuffer_iff {index : Nat} : (p.trajectoryBuffer index).isSome = true ↔ index < p.count := by
  rw [trajectoryBuffer, Option.isSome_map, trajectory?, isSome_getElem?]
  rfl

theorem trajectoryBuffer_entries (h : p.Coherent) {index : Nat} {buffer : List Float32}
    (hb : p.trajectoryBuffer index = some buffer) :
    buffer.length = 4 * p.settings.halfSteps.toNat ∧
    ∃ t, p.trajectories[index]? = some t ∧
      trace (scanningField p.formulas.dx.text p.formulas.dy.text) t.initial p.settings.timeStep
        p.settings.halfSteps.toNat = .ok t.states ∧
      ∀ j < 2 * p.settings.halfSteps.toNat, ∃ state, t.states[j]? = some state ∧
        buffer[2 * j]? = some (toSingle state.x) ∧ buffer[2 * j + 1]? = some (toSingle state.y) := by
  obtain ⟨t, ht, rfl⟩ := Option.map_eq_some_iff.mp hb
  have hmem : t ∈ p.trajectories := List.mem_of_getElem? ht
  have hlength := h.length_states hmem
  have hstates : t.states = (p.formulas.traced p.settings t.initial).states := by rw [← h.traced t hmem]
  refine ⟨?_, t, ht, ?_, ?_⟩
  · rw [length_stateVertices, hlength]
    omega
  · rw [hstates]
    exact FormulaPair.trace_scanningField h.formulas p.settings t.initial
  · intro j hj
    rw [← hlength] at hj
    exact ⟨_, List.getElem?_eq_getElem hj, stateVertices_entries (List.getElem?_eq_getElem hj)⟩

/-- In every portrait of a run the buffers are complete and in order. The arrow at each node has four numbers, at the
place that its row and column give: the node, and the direction there under the present formulas and settings. There is
a buffer for each stored trajectory and no other one, and the stored trajectories go through the points added last, in
the order in which they were added; each state has two numbers, at the place of the state. Each axis that meets the
rectangle has the four numbers of its ends. Every number is the nearest one of single precision. -/
theorem buffers_in_order {s : Settings} {start : Portrait} (h : ofSettings s = .ok start) (ops : Nat → Operation)
    (n : Nat) :
    let p := stage start ops n
    let b := p.settings.bounds
    let rows := p.settings.grid.rows.toNat
    let cols := p.settings.grid.cols.toNat
    let halfSteps := p.settings.halfSteps.toNat
    let node := p.settings.grid.node b
    let field := scanningField p.formulas.dx.text p.formulas.dy.text
    (∃ buffer, p.arrowBuffer = .ok buffer ∧ buffer.length = 4 * (rows * cols) ∧
      ∀ row < rows, ∀ col < cols, ∃ v, field (node row col) = .ok v ∧
        let k := row * cols + col
        buffer[4 * k]? = some (toSingle (node row col).x) ∧
        buffer[4 * k + 1]? = some (toSingle (node row col).y) ∧
        buffer[4 * k + 2]? = some (toSingle (direction v p.settings.arrowLength).x) ∧
        buffer[4 * k + 3]? = some (toSingle (direction v p.settings.arrowLength).y)) ∧
    p.initials <:+ (List.range n).filterMap (addedAt? start ops) ∧
    (∀ index, (p.trajectoryBuffer index).isSome = true ↔ index < p.count) ∧
    (∀ index buffer, p.trajectoryBuffer index = some buffer →
      buffer.length = 4 * halfSteps ∧
      ∃ t, p.trajectories[index]? = some t ∧
        trace field t.initial p.settings.timeStep halfSteps = .ok t.states ∧
        ∀ j < 2 * halfSteps, ∃ state, t.states[j]? = some state ∧
          buffer[2 * j]? = some (toSingle state.x) ∧ buffer[2 * j + 1]? = some (toSingle state.y)) ∧
    p.axesBuffer =
      (if b.minY ≤ 0 ∧ 0 ≤ b.maxY then [toSingle b.minX, 0, toSingle b.maxX, 0] else []) ++
      (if b.minX ≤ 0 ∧ 0 ≤ b.maxX then [0, toSingle b.minY, 0, toSingle b.maxY] else []) := by
  intro p b rows cols halfSteps node field
  have hstart := Coherent.create h
  have hp : p.Coherent := coherent_stage hstart ops n
  have hempty : start.trajectories = [] := by
    obtain ⟨f, -, -, rfl⟩ := create_eq_ok_iff.mp h
    rfl
  exact ⟨arrowBuffer_entries hp, initials_stage_suffix hstart ops hempty n, fun _ => isSome_trajectoryBuffer_iff,
    fun _ _ hb => trajectoryBuffer_entries hp hb, axesBuffer_eq p⟩

/-- One row of two cells; a trajectory has given way to the one that is drawn, and the formulas have been changed. -/
theorem buffers_in_order_row :
    let s := { Settings.standard with
      bounds := ⟨-1, 0, 3, 2⟩, grid := ⟨1, 2⟩, arrowLength := 10, timeStep := 1, halfSteps := 1, maxTrajectories := 1 }
    let f : FormulaPair :=
      ⟨⟨"x*x+y", .binary .add (.binary .mul (.var .x) (.var .x)) (.var .y)⟩, ⟨"x-y", .binary .sub (.var .x) (.var .y)⟩⟩
    let start : Portrait := ⟨s, f, f.compile, []⟩
    let ops (t : Nat) : Operation := [.add ⟨5, 5⟩, .applyFormulas "3" "4", .add ⟨0.1, 0⟩].getD t .clear
    let p := stage start ops 3
    ofSettings s = .ok start ∧ p.initials <:+ [⟨5, 5⟩, ⟨0.1, 0⟩] ∧
    (∃ buffer, p.arrowBuffer = .ok buffer ∧ buffer.length = 8 ∧
      buffer[4]? = some 2 ∧ buffer[5]? = some 1 ∧ buffer[6]? = some 6 ∧ buffer[7]? = some 8) ∧
    (∃ buffer, p.trajectoryBuffer 0 = some buffer ∧ buffer.length = 4 ∧
      buffer[2]? = some (3.1 : Float32) ∧ buffer[3]? = some 4) ∧
    p.trajectoryBuffer 1 = none ∧
    p.axesBuffer = [-1, 0, 3, 0, 0, 0, 0, 2] := by
  intro s f start ops p
  have hstart : ofSettings s = .ok start := by decide +kernel
  have hadditions : (List.range 3).filterMap (addedAt? start ops) = [⟨5, 5⟩, ⟨0.1, 0⟩] := by decide +kernel
  have hsettings : (stage start ops 3).settings = s := by decide +kernel
  have hformulas : (stage start ops 3).formulas.dx.text = "3" ∧ (stage start ops 3).formulas.dy.text = "4" := by
    decide +kernel
  obtain ⟨⟨arrows, harrows, hlength, hnodes⟩, hadded, hpresent, hbuffers, haxes⟩ := buffers_in_order hstart ops 3
  rw [hsettings] at hlength hnodes hbuffers haxes
  rw [hformulas.1, hformulas.2] at hnodes hbuffers
  have hcount : (stage start ops 3).count = 1 := by decide +kernel
  refine ⟨hstart, hadditions ▸ hadded, ⟨arrows, harrows, hlength, ?_⟩, ?_, ?_, haxes.trans (by decide +kernel)⟩
  · have hvelocity : scanningField "3" "4" (s.grid.node s.bounds 0 1) = .ok ⟨3, 4⟩ := by decide +kernel
    obtain ⟨v, hv, hx, hy, hdx, hdy⟩ := hnodes 0 (by decide) 1 (by decide)
    cases hvelocity.symm.trans hv
    exact ⟨hx.trans (by decide +kernel), hy.trans (by decide +kernel), hdx.trans (by decide +kernel),
      hdy.trans (by decide +kernel)⟩
  · have hfirst : (stage start ops 3).trajectories[0]? = some ⟨⟨0.1, 0⟩, [⟨-2.9, -4⟩, ⟨3.1, 4⟩]⟩ := by decide +kernel
    obtain ⟨buffer, hb⟩ := Option.isSome_iff_exists.mp ((hpresent 0).mpr (by omega))
    obtain ⟨hlength, t, ht, -, hentries⟩ := hbuffers 0 buffer hb
    cases hfirst.symm.trans ht
    obtain ⟨state, hstate, hx, hy⟩ := hentries 1 (by decide)
    cases hstate
    exact ⟨buffer, hb, hlength, hx.trans (by decide +kernel), hy.trans (by decide +kernel)⟩
  · have habsent : ¬((stage start ops 3).trajectoryBuffer 1).isSome = true := by
      rw [hpresent, hcount]
      decide
    exact Option.not_isSome_iff_eq_none.mp habsent

end Portrait
end PhasePortrait
