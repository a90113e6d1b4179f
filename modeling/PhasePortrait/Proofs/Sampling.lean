import PhasePortrait.Field.Arrow
import PhasePortrait.Proofs.Calls

/-! # Sampling a grid, call by call

The field is asked once at every node, along the rows, from the lowest row on: the call at a node has the number
of the nodes before it. The arrow with this number is drawn at this node, along what the field has answered there.
-/
namespace PhasePortrait

namespace Grid

/-- The nodes row by row, from the lowest row and from the left. -/
def nodes (g : Grid) (b : Bounds Float) : List (Point Float) :=
  (List.range g.rows.toNat).flatMap fun row => (List.range g.cols.toNat).map fun col => g.node b row col

/-- The calls before number `n` are answered with the values `v` of their rows and columns. -/
def AnsweredBefore (g : Grid) (b : Bounds Float) (answer : Answers) (v : Nat → Nat → Point Float) (n : Nat) : Prop :=
  ∀ row < g.rows.toNat, ∀ col < g.cols.toNat, row * g.cols.toNat + col < n →
    answer (row * g.cols.toNat + col) (g.node b row col) = .ok (v row col)

end Grid

/-! ## One number for a row and a column -/

theorem map_range_mul {γ : Type} (f : Nat → γ) (rows cols : Nat) :
    (List.range (rows * cols)).map f =
      (List.range rows).flatMap fun row => (List.range cols).map fun col => f (row * cols + col) := by
  induction rows with
  | zero => simp
  | succ rows ih =>
    rw [Nat.succ_mul, List.range_add, List.map_append, ih, List.range_succ, List.flatMap_append, List.map_map]
    simp [Function.comp_def]

namespace Grid
variable (g : Grid) (b : Bounds Float) {row col : Nat}

theorem row_lt {k : Nat} (hk : k < g.count) : k / g.cols.toNat < g.rows.toNat := by
  apply Nat.div_lt_of_lt_mul
  rwa [Nat.mul_comm]

theorem col_lt {k : Nat} (hk : k < g.count) : k % g.cols.toNat < g.cols.toNat := by
  apply Nat.mod_lt
  apply Nat.pos_of_ne_zero
  intro hz
  rw [count, hz, Nat.mul_zero] at hk
  exact Nat.not_lt_zero k hk

theorem number_lt (hrow : row < g.rows.toNat) (hcol : col < g.cols.toNat) :
    row * g.cols.toNat + col < g.count := by
  calc row * g.cols.toNat + col < (row + 1) * g.cols.toNat := by
        rw [Nat.succ_mul]
        omega
    _ ≤ g.count := Nat.mul_le_mul_right _ hrow

theorem row_number (hcol : col < g.cols.toNat) : (row * g.cols.toNat + col) / g.cols.toNat = row := by
  rw [Nat.mul_comm, Nat.mul_add_div (by omega), Nat.div_eq_of_lt hcol, Nat.add_zero]

theorem col_number (hcol : col < g.cols.toNat) : (row * g.cols.toNat + col) % g.cols.toNat = col := by
  rw [Nat.mul_comm, Nat.mul_add_mod, Nat.mod_eq_of_lt hcol]

theorem nodeAt_number (hcol : col < g.cols.toNat) : g.nodeAt b (row * g.cols.toNat + col) = g.node b row col := by
  rw [nodeAt, g.row_number hcol, g.col_number hcol]

theorem map_nodeAt_range : (List.range g.count).map (g.nodeAt b) = g.nodes b := by
  rw [count, map_range_mul, nodes]
  apply congrArg List.flatten
  apply List.map_congr_left
  intro row _
  apply List.map_congr_left
  intro col hcol
  exact g.nodeAt_number b (List.mem_range.mp hcol)

theorem length_nodes : (g.nodes b).length = g.count := by
  rw [← map_nodeAt_range, List.length_map, List.length_range]

theorem record_nodeAt {n : Nat} (hn : n ≤ g.count) :
    record (g.nodeAt b) n = (((g.nodes b).take n).toArray, n) := by
  rw [record, ← map_nodeAt_range, ← List.map_take, List.take_range, Nat.min_eq_left hn]

section
variable {g b} {answer : Answers} {n : Nat}

theorem AnsweredBefore.answered {v : Nat → Nat → Point Float} (h : g.AnsweredBefore b answer v n)
    (hn : n ≤ g.count) : Answered answer (g.nodeAt b) (fun k => v (k / g.cols.toNat) (k % g.cols.toNat)) n := by
  intro k hk
  have hnumber : k / g.cols.toNat * g.cols.toNat + k % g.cols.toNat = k := Nat.div_add_mod' k g.cols.toNat
  have hcount : k < g.count := Nat.lt_of_lt_of_le hk hn
  have hcall := h _ (g.row_lt hcount) _ (g.col_lt hcount) (by rwa [hnumber])
  rwa [hnumber, ← nodeAt] at hcall

theorem answeredBefore_of_answered {v : Nat → Point Float} (h : Answered answer (g.nodeAt b) v n) :
    g.AnsweredBefore b answer (fun row col => v (row * g.cols.toNat + col)) n := by
  intro row _ col hcol hlt
  rw [← g.nodeAt_number b hcol]
  exact h _ hlt

end

end Grid

/-! ## The calls -/

theorem makes_sampleArrows (answer : Answers) (v : Nat → Point Float) (b : Bounds Float) (g : Grid) (length : Float) :
    Makes answer (g.nodeAt b) v 0 g.count (sampleArrows (recording answer) b g length)
      (List.ofFn fun k : Fin g.count => ⟨g.nodeAt b k, direction (v k) length⟩) := by
  unfold sampleArrows
  dsimp only
  apply makes_ofFnM
  intro k
  rw [Nat.zero_add]
  have hask : Makes answer (g.nodeAt b) v k.val 1 (recording answer (g.nodeAt b k.val)) (v k.val) := makes_ask k.val
  refine hask.bind (m := 0) ?_
  exact makes_pure (k.val + 1) _

theorem getElem?_ofFn_number {γ : Type} (g : Grid) (f : Nat → γ) {row col : Nat} (hrow : row < g.rows.toNat)
    (hcol : col < g.cols.toNat) :
    (List.ofFn fun k : Fin g.count => f k)[row * g.cols.toNat + col]? = some (f (row * g.cols.toNat + col)) := by
  rw [List.getElem?_ofFn, dif_pos (g.number_lt hrow hcol)]

/-- Where no call fails there is one arrow for each row and column, at its node and along the answer that was given
there, and the field is asked at every node once, in this order. The first call that fails ends the sampling with
its error, and nothing more is asked. There is no other way in which a field can answer; a grid without rows or
columns gives no arrows and asks for nothing. The saturated size of the grid has no part in this. -/
theorem sampleArrows_calls (answer : Answers) (b : Bounds Float) (g : Grid) (length : Float) :
    let rows := g.rows.toNat
    let cols := g.cols.toNat
    let run := (sampleArrows (recording answer) b g length).run.run (#[], 0)
    (∀ v, g.AnsweredBefore b answer v (rows * cols) →
      ∃ arrows, run = (.ok arrows, (g.nodes b).toArray, rows * cols) ∧ arrows.length = rows * cols ∧
        ∀ row < rows, ∀ col < cols,
          arrows[row * cols + col]? = some ⟨g.node b row col, direction (v row col) length⟩) ∧
    (∀ v, ∀ row < rows, ∀ col < cols, ∀ e, g.AnsweredBefore b answer v (row * cols + col) →
      answer (row * cols + col) (g.node b row col) = .error e →
      run = (.error e, ((g.nodes b).take (row * cols + col + 1)).toArray, row * cols + col + 1)) ∧
    (∃ v, g.AnsweredBefore b answer v (rows * cols) ∨ ∃ row < rows, ∃ col < cols, ∃ e,
      g.AnsweredBefore b answer v (row * cols + col) ∧ answer (row * cols + col) (g.node b row col) = .error e) ∧
    (rows = 0 ∨ cols = 0 → run = (.ok [], #[], 0)) ∧
    g.size.toNat = min (rows * cols) (UInt64.size - 1) := by
  intro rows cols run
  have hcalls (v : Nat → Point Float) := makes_sampleArrows answer v b g length
  refine ⟨?_, ?_, ?_, ?_, g.toNat_size⟩
  · intro v hv
    have hrun := (hcalls _).run_eq (hv.answered (Nat.le_refl g.count))
    rw [g.record_nodeAt b (Nat.le_refl g.count), List.take_of_length_le (Nat.le_of_eq (g.length_nodes b))] at hrun
    refine ⟨_, hrun, List.length_ofFn, ?_⟩
    intro row hrow col hcol
    have harrow := getElem?_ofFn_number g
      (fun k => (⟨g.nodeAt b k, direction (v (k / cols) (k % cols)) length⟩ : Arrow)) hrow hcol
    rwa [g.nodeAt_number b hcol, g.row_number hcol, g.col_number hcol] at harrow
  · intro v row hrow col hcol e hv he
    have hlt := g.number_lt hrow hcol
    rw [← g.nodeAt_number b hcol] at he
    have hrun := (hcalls _).run_eq_error hlt ⟨hv.answered (Nat.le_of_lt hlt), he⟩
    rwa [g.record_nodeAt b hlt] at hrun
  · obtain ⟨v, h | ⟨k, hk, e, h, he⟩⟩ := exists_answered (fun _ => g.nodeAt b) (fun _ _ _ _ => rfl) answer g.count
    · exact ⟨_, .inl (Grid.answeredBefore_of_answered h)⟩
    · have hnumber : k / cols * cols + k % cols = k := Nat.div_add_mod' k cols
      refine ⟨fun row col => v (row * cols + col), .inr ⟨k / cols, g.row_lt hk, k % cols, g.col_lt hk, e, ?_⟩⟩
      rw [hnumber]
      exact ⟨Grid.answeredBefore_of_answered h, he⟩
  · intro hempty
    have hcount : g.count = 0 := Nat.mul_eq_zero.mpr hempty
    have hnone : Answered answer (g.nodeAt b) (fun _ => ⟨0, 0⟩) g.count := by
      rw [hcount]
      exact nofun
    have hrun := (hcalls _).run_eq hnone
    have hnil (f : Fin g.count → Arrow) : List.ofFn f = [] :=
      List.eq_nil_of_length_eq_zero (by rw [List.length_ofFn, hcount])
    rwa [hnil, hcount] at hrun

/-- Four cells; a field that fails when it is asked for the third time is not asked in the upper right one. -/
theorem sampleArrows_calls_third :
    let b : Bounds Float := ⟨0, 0, 4, 2⟩
    let g : Grid := ⟨2, 2⟩
    let failing : Answers := fun k _ => if k = 2 then .error (.unknownName 0 "q") else .ok ⟨3, 4⟩
    g.AnsweredBefore b (fun _ _ => .ok ⟨3, 4⟩) (fun _ _ => ⟨3, 4⟩) 4 ∧
    (∃ arrows, (sampleArrows (recording fun _ _ => .ok ⟨3, 4⟩) b g 10).run.run (#[], 0) =
        (.ok arrows, #[⟨1, 0.5⟩, ⟨3, 0.5⟩, ⟨1, 1.5⟩, ⟨3, 1.5⟩], 4) ∧
      arrows.length = 4 ∧ arrows[2]? = some ⟨⟨1, 1.5⟩, ⟨6, 8⟩⟩) ∧
    g.AnsweredBefore b failing (fun _ _ => ⟨3, 4⟩) 2 ∧ failing 2 (g.node b 1 0) = .error (.unknownName 0 "q") ∧
    (sampleArrows (recording failing) b g 10).run.run (#[], 0) =
      (.error (.unknownName 0 "q"), #[⟨1, 0.5⟩, ⟨3, 0.5⟩, ⟨1, 1.5⟩], 3) := by
  intro b g failing
  have hall : g.AnsweredBefore b (fun _ _ => .ok ⟨3, 4⟩) (fun _ _ => ⟨3, 4⟩) 4 := fun _ _ _ _ _ => rfl
  have hfew : g.AnsweredBefore b failing (fun _ _ => ⟨3, 4⟩) 2 := fun row _ col _ hlt => if_neg (Nat.ne_of_lt hlt)
  have hnodes : (g.nodes b).toArray = #[⟨1, 0.5⟩, ⟨3, 0.5⟩, ⟨1, 1.5⟩, ⟨3, 1.5⟩] := by decide +kernel
  have htaken : ((g.nodes b).take 3).toArray = #[⟨1, 0.5⟩, ⟨3, 0.5⟩, ⟨1, 1.5⟩] := by decide +kernel
  have harrow : (⟨g.node b 1 0, direction ⟨3, 4⟩ 10⟩ : Arrow) = ⟨⟨1, 1.5⟩, ⟨6, 8⟩⟩ := by decide +kernel
  obtain ⟨arrows, hrun, hlength, harrows⟩ :=
    (sampleArrows_calls (fun _ _ => .ok ⟨3, 4⟩) b g 10).1 (fun _ _ => ⟨3, 4⟩) hall
  have hstop := (sampleArrows_calls failing b g 10).2.1 (fun _ _ => ⟨3, 4⟩) 1 (by decide) 0 (by decide)
    (.unknownName 0 "q") hfew rfl
  refine ⟨hall, ⟨arrows, ?_, hlength, ?_⟩, hfew, rfl, ?_⟩
  · rw [← hnodes]
    exact hrun
  · rw [← harrow]
    exact harrows 1 (by decide) 0 (by decide)
  · rw [← htaken]
    exact hstop

end PhasePortrait
