import Mathlib.Tactic.Choose
import PhasePortrait.Proofs.Fields
import PhasePortrait.Settings.Reading

/-! # What documents settings are read from

A record with the fields of settings, in any order and among other names, is read as these settings. A field that is left
out has its standard value, but a rectangle or a grid is there with all its parts or not at all. Nothing else that is no
sequence is read, and whatever is read may still be of no use.
-/
namespace PhasePortrait

namespace Document

/-- What the exchange format can express: numbers are finite, a whole number with a sign is below zero and fits a word,
and a record holds a name at most once. -/
inductive WellFormed : Document → Prop
  | null : WellFormed .null
  | boolean (b : Bool) : WellFormed (.boolean b)
  | natural (n : UInt64) : WellFormed (.natural n)
  | negative {n : Int} : -9223372036854775808 ≤ n → n < 0 → WellFormed (.negative n)
  | real {x : Float} : x.isFinite = true → WellFormed (.real x)
  | text (s : String) : WellFormed (.text s)
  | sequence {items : List Document} : (∀ d ∈ items, WellFormed d) → WellFormed (.sequence items)
  | record {entries : List (String × Document)} :
    (entries.map Prod.fst).Nodup → (∀ e ∈ entries, WellFormed e.2) → WellFormed (.record entries)

/-- A number with its value; a whole number has the value of the nearest double. -/
inductive HasValue : Document → Float → Prop
  | natural (n : UInt64) : HasValue (.natural n) n.toFloat
  | negative (n : Int) : HasValue (.negative n) (Float.ofInt n)
  | real (x : Float) : HasValue (.real x) x

/-- Under the name a record holds a document with the property. -/
def Holds (entries : List (String × Document)) (name : String) (P : Document → Prop) : Prop :=
  ∃ d, (name, d) ∈ entries ∧ P d

/-- Under the name a record holds nothing. -/
def Lacks (entries : List (String × Document)) (name : String) : Prop := ∀ d, (name, d) ∉ entries

end Document

/-- The numbers of a rectangle with their names. -/
def Bounds.corners (b : Bounds Float) : List (String × Float) :=
  [("min_x", b.minX), ("min_y", b.minY), ("max_x", b.maxX), ("max_y", b.maxY)]

/-- The sizes of a grid with their names. -/
def Grid.sides (g : Grid) : List (String × UInt64) := [("rows", g.rows), ("cols", g.cols)]

namespace Settings
open Document

inductive Field
  | bounds
  | grid
  | arrowLength
  | timeStep
  | halfSteps
  | maxTrajectories
  deriving DecidableEq, Repr

namespace Field

def name : Field → String
  | bounds => "bounds"
  | grid => "grid"
  | arrowLength => "arrow_length"
  | timeStep => "dt"
  | halfSteps => "half_steps"
  | maxTrajectories => "max_trajectories"

def Value : Field → Type
  | bounds => Bounds Float
  | grid => Grid
  | arrowLength | timeStep => Float
  | halfSteps | maxTrajectories => UInt64

/-- The names that a record for this field has to hold. -/
def parts : Field → List String
  | bounds => ["min_x", "min_y", "max_x", "max_y"]
  | grid => ["rows", "cols"]
  | arrowLength | timeStep | halfSteps | maxTrajectories => []

/-- The document is of the type of the field and has this value. -/
def Means : (f : Field) → Document → f.Value → Prop
  | bounds, d, b => ∃ entries, d = .record entries ∧ ∀ c ∈ b.corners, Holds entries c.1 fun v => v.HasValue c.2
  | grid, d, g => ∃ entries, d = .record entries ∧ ∀ c ∈ g.sides, Holds entries c.1 fun v => v = .natural c.2
  | arrowLength, d, x | timeStep, d, x => d.HasValue x
  | halfSteps, d, n | maxTrajectories, d, n => d = .natural n

def read : (f : Field) → Document → Except ReadError f.Value
  | bounds => readBounds
  | grid => readGrid
  | arrowLength | timeStep => readNumber
  | halfSteps | maxTrajectories => readSize

end Field

def value (s : Settings) : (f : Field) → f.Value
  | .bounds => s.bounds
  | .grid => s.grid
  | .arrowLength => s.arrowLength
  | .timeStep => s.timeStep
  | .halfSteps => s.halfSteps
  | .maxTrajectories => s.maxTrajectories

/-- The settings with these values of their fields. -/
def ofValues (v : (f : Field) → f.Value) : Settings :=
  ⟨v .bounds, v .grid, v .arrowLength, v .timeStep, v .halfSteps, v .maxTrajectories⟩

/-- All numbers in the settings that are no sizes are finite. -/
def Finite (s : Settings) : Prop :=
  ∀ x ∈ s.bounds.corners.map Prod.snd ++ [s.arrowLength, s.timeStep], x.isFinite = true

theorem value_ofValues (v : (f : Field) → f.Value) (f : Field) : (ofValues v).value f = v f := by
  cases f <;> rfl

theorem eq_of_value {s t : Settings} (h : ∀ f, s.value f = t.value f) : s = t := by
  cases s
  cases t
  simp only [Settings.mk.injEq]
  exact ⟨h .bounds, h .grid, h .arrowLength, h .timeStep, h .halfSteps, h .maxTrajectories⟩

end Settings

/-! ## Entries of a record -/

namespace Document

section
variable {entries : List (String × Document)} {name : String} {d : Document}

theorem WellFormed.nodup (h : (Document.record entries).WellFormed) : (entries.map Prod.fst).Nodup := by
  cases h with
  | record hnames _ => exact hnames

theorem WellFormed.entry (h : (Document.record entries).WellFormed) (hd : (name, d) ∈ entries) : d.WellFormed := by
  cases h with
  | record _ hentries => exact hentries _ hd

theorem Holds.not_lacks {P : Document → Prop} (h : Holds entries name P) : ¬Lacks entries name := by
  intro hl
  obtain ⟨d, hd, -⟩ := h
  exact hl d hd

theorem entry?_eq_none_iff : entry? entries name = none ↔ Lacks entries name := by
  unfold entry?
  rw [List.lookup_eq_none_iff]
  constructor
  · intro h d hd
    simpa using h _ hd
  · intro h e he
    refine bne_iff_ne.mpr ?_
    rintro rfl
    exact h e.2 he

variable (h : (record entries).WellFormed)
include h

theorem entry?_eq_some_iff : entry? entries name = some d ↔ (name, d) ∈ entries := by
  unfold entry?
  constructor
  · intro he
    obtain ⟨before, after, rfl, -⟩ := List.lookup_eq_some_iff.mp he
    simp
  · intro hd
    obtain ⟨before, after, rfl⟩ := List.append_of_mem hd
    refine List.lookup_eq_some_iff.mpr ⟨before, after, rfl, ?_⟩
    have hnames := h.nodup
    rw [List.map_append, List.map_cons, List.nodup_append] at hnames
    intro e he
    exact bne_iff_ne.mpr (hnames.2.2 e.1 (List.mem_map_of_mem he) name List.mem_cons_self).symm

theorem eq_of_mem_of_mem {d' : Document} (hd : (name, d) ∈ entries) (hd' : (name, d') ∈ entries) : d = d' :=
  Option.some.inj (((entry?_eq_some_iff h).mpr hd).symm.trans ((entry?_eq_some_iff h).mpr hd'))

section
variable {α : Type} {read : Document → Except ReadError α} {v : α}

theorem readEntry_eq_some_iff :
    readEntry read entries name = .ok (some v) ↔ Holds entries name fun d => read d = .ok v := by
  constructor
  · intro hr
    rw [readEntry] at hr
    split at hr
    · cases hr
    · rename_i d he
      obtain ⟨w, hw, hv⟩ := map_eq_ok_iff.mp hr
      cases hv
      exact ⟨d, (entry?_eq_some_iff h).mp he, hw⟩
  · rintro ⟨d, hd, hv⟩
    rw [readEntry, (entry?_eq_some_iff h).mpr hd]
    exact map_eq_ok_iff.mpr ⟨v, hv, rfl⟩

omit h in
theorem readEntry_eq_none_iff : readEntry read entries name = .ok none ↔ Lacks entries name := by
  rw [← entry?_eq_none_iff, readEntry]
  split
  · rename_i he
    exact ⟨fun _ => he, fun _ => rfl⟩
  · rename_i d he
    rw [he]
    refine ⟨fun hr => ?_, nofun⟩
    obtain ⟨w, -, hv⟩ := map_eq_ok_iff.mp hr
    cases hv

/-- With a standard value for what is left out. -/
theorem exists_readEntry_iff {standard : α} :
    (∃ v?, readEntry read entries name = .ok v? ∧ v?.getD standard = v) ↔
      (Holds entries name fun d => read d = .ok v) ∨ Lacks entries name ∧ standard = v := by
  constructor
  · rintro ⟨v?, hr, hv⟩
    cases v? with
    | none => exact .inr ⟨readEntry_eq_none_iff.mp hr, hv⟩
    | some w =>
      cases hv
      exact .inl ((readEntry_eq_some_iff h).mp hr)
  · rintro (hv | ⟨hl, hv⟩)
    · exact ⟨some v, (readEntry_eq_some_iff h).mpr hv, rfl⟩
    · exact ⟨none, readEntry_eq_none_iff.mpr hl, hv⟩

end

/-! ## Numbers, sizes, rectangles and grids -/

omit h in
theorem readNumber_eq_ok_iff {x : Float} : readNumber d = .ok x ↔ d.HasValue x := by
  constructor
  · intro hr
    cases d <;> cases hr <;> constructor
  · intro hv
    cases hv <;> rfl

omit h in
theorem readSize_eq_ok_iff {n : UInt64} : readSize d = .ok n ↔ d = .natural n := by
  constructor
  · intro hr
    cases d <;> cases hr
    rfl
  · rintro rfl
    rfl

omit h in
theorem required_eq_ok_iff {α : Type} {v? : Option α} {v : α} : required name v? = .ok v ↔ v? = some v := by
  cases v? with
  | none => exact ⟨nofun, nofun⟩
  | some w =>
    constructor
    · intro hr
      cases hr
      rfl
    · rintro ⟨⟩
      rfl

theorem readBounds_record_eq_ok_iff {b : Bounds Float} :
    readBounds (.record entries) = .ok b ↔ ∀ c ∈ b.corners, Holds entries c.1 fun v => v.HasValue c.2 := by
  have hcorner (name : String) (x : Float) :
      readEntry readNumber entries name = .ok (some x) ↔ Holds entries name fun v => v.HasValue x := by
    simp only [readEntry_eq_some_iff h, readNumber_eq_ok_iff]
  simp only [Bounds.corners, List.forall_mem_cons, ← hcorner, readBounds, bind_eq_ok_iff, required_eq_ok_iff]
  constructor
  · rintro ⟨maxX?, hMaxX, maxY?, hMaxY, minX?, hMinX, minY?, hMinY, minX, rfl, minY, rfl, maxX, rfl, maxY, rfl, hb⟩
    cases hb
    exact ⟨hMinX, hMinY, hMaxX, hMaxY, nofun⟩
  · rintro ⟨hMinX, hMinY, hMaxX, hMaxY, -⟩
    exact ⟨_, hMaxX, _, hMaxY, _, hMinX, _, hMinY, _, rfl, _, rfl, _, rfl, _, rfl, rfl⟩

theorem readGrid_record_eq_ok_iff {g : Grid} :
    readGrid (.record entries) = .ok g ↔ ∀ c ∈ g.sides, Holds entries c.1 fun v => v = .natural c.2 := by
  have hside (name : String) (n : UInt64) :
      readEntry readSize entries name = .ok (some n) ↔ Holds entries name fun v => v = .natural n := by
    simp only [readEntry_eq_some_iff h, readSize_eq_ok_iff]
  simp only [Grid.sides, List.forall_mem_cons, ← hside, readGrid, bind_eq_ok_iff, required_eq_ok_iff]
  constructor
  · rintro ⟨cols?, hCols, rows?, hRows, rows, rfl, cols, rfl, hg⟩
    cases hg
    exact ⟨hRows, hCols, nofun⟩
  · rintro ⟨hRows, hCols, -⟩
    exact ⟨_, hCols, _, hRows, _, rfl, _, rfl, rfl⟩

end

end Document

/-! ## Fields of settings -/

namespace Settings
open Document
variable {d : Document} {f : Field}

namespace Field

/-- A document that means a value is read as that value. -/
theorem Means.read_eq {v : f.Value} (hw : d.WellFormed) (h : f.Means d v) : f.read d = .ok v := by
  cases f with
  | bounds =>
    obtain ⟨entries, rfl, hc⟩ := h
    exact (readBounds_record_eq_ok_iff hw).mpr hc
  | grid =>
    obtain ⟨entries, rfl, hs⟩ := h
    exact (readGrid_record_eq_ok_iff hw).mpr hs
  | arrowLength | timeStep => exact readNumber_eq_ok_iff.mpr h
  | halfSteps | maxTrajectories => exact readSize_eq_ok_iff.mpr h

/-- Apart from sequences, only a document that means a value is read as it. -/
theorem means_of_read {v : f.Value} (hw : d.WellFormed) (hd : ∀ items, d ≠ .sequence items) (h : f.read d = .ok v) :
    f.Means d v := by
  cases f with
  | bounds =>
    cases d with
    | record entries => exact ⟨entries, rfl, (readBounds_record_eq_ok_iff hw).mp h⟩
    | sequence items => exact absurd rfl (hd items)
    | null | boolean | natural | negative | real | text => cases h
  | grid =>
    cases d with
    | record entries => exact ⟨entries, rfl, (readGrid_record_eq_ok_iff hw).mp h⟩
    | sequence items => exact absurd rfl (hd items)
    | null | boolean | natural | negative | real | text => cases h
  | arrowLength | timeStep => exact readNumber_eq_ok_iff.mp h
  | halfSteps | maxTrajectories => exact readSize_eq_ok_iff.mp h

/-- A record that means a rectangle or a grid holds every part of it. -/
theorem Means.holds {entries : List (String × Document)} {v : f.Value} (h : f.Means (.record entries) v) {name : String}
    (hname : name ∈ f.parts) : ¬Lacks entries name := by
  cases f with
  | bounds =>
    obtain ⟨entries', he, hc⟩ := h
    cases he
    obtain ⟨c, hcorner, rfl⟩ : ∃ c ∈ v.corners, c.1 = name := List.mem_map.mp hname
    exact (hc c hcorner).not_lacks
  | grid =>
    obtain ⟨entries', he, hs⟩ := h
    cases he
    obtain ⟨c, hside, rfl⟩ : ∃ c ∈ v.sides, c.1 = name := List.mem_map.mp hname
    exact (hs c hside).not_lacks
  | arrowLength | timeStep | halfSteps | maxTrajectories => cases hname

end Field

section
variable {entries : List (String × Document)}

/-- Every field is read on its own. -/
theorem readSettings_record_eq_ok_iff {t : Settings} :
    readSettings (.record entries) = .ok t ↔
      ∀ f : Field, ∃ v?, readEntry f.read entries f.name = .ok v? ∧ v?.getD (standard.value f) = t.value f := by
  simp only [readSettings, bind_eq_ok_iff]
  constructor
  · rintro ⟨arrowLength?, ha, bounds?, hb, timeStep?, ht, grid?, hg, halfSteps?, hh, maxTrajectories?, hm, he⟩ f
    cases he
    cases f with
    | bounds => exact ⟨_, hb, rfl⟩
    | grid => exact ⟨_, hg, rfl⟩
    | arrowLength => exact ⟨_, ha, rfl⟩
    | timeStep => exact ⟨_, ht, rfl⟩
    | halfSteps => exact ⟨_, hh, rfl⟩
    | maxTrajectories => exact ⟨_, hm, rfl⟩
  · intro h
    obtain ⟨arrowLength?, ha, hav⟩ := h .arrowLength
    obtain ⟨bounds?, hb, hbv⟩ := h .bounds
    obtain ⟨timeStep?, ht, htv⟩ := h .timeStep
    obtain ⟨grid?, hg, hgv⟩ := h .grid
    obtain ⟨halfSteps?, hh, hhv⟩ := h .halfSteps
    obtain ⟨maxTrajectories?, hm, hmv⟩ := h .maxTrajectories
    refine ⟨_, ha, _, hb, _, ht, _, hg, _, hh, _, hm, congrArg Except.ok ?_⟩
    apply eq_of_value
    intro f
    cases f <;> assumption

variable (hw : (Document.record entries).WellFormed)
include hw

theorem readSettings_ofValues_iff {v : (f : Field) → f.Value} :
    readSettings (.record entries) = .ok (ofValues v) ↔
      ∀ f : Field, (Holds entries f.name fun d => f.read d = .ok (v f)) ∨
        Lacks entries f.name ∧ standard.value f = v f := by
  simp only [readSettings_record_eq_ok_iff, exists_readEntry_iff hw, value_ofValues]

/-- The fields that are there are read, and the others have their standard values. -/
theorem readSettings_of_means (s : Settings) (kept : Field → Bool)
    (hkept : ∀ f, kept f = true → Holds entries f.name fun d => f.Means d (s.value f))
    (hleft : ∀ f, kept f = false → Lacks entries f.name) :
    readSettings (.record entries) = .ok (ofValues fun f => if kept f then s.value f else standard.value f) := by
  refine (readSettings_ofValues_iff hw).mpr fun f => ?_
  cases hk : kept f with
  | true =>
    obtain ⟨d, hd, hm⟩ := hkept f hk
    exact .inl ⟨d, hd, hm.read_eq (hw.entry hd)⟩
  | false => exact .inr ⟨hleft f hk, rfl⟩

/-- Where settings are read, every field that is no sequence has its type. -/
theorem exists_means_of_readSettings {t : Settings} (ht : readSettings (.record entries) = .ok t) {f : Field}
    {d : Document} (hd : (f.name, d) ∈ entries) (hs : ∀ items, d ≠ .sequence items) : ∃ v, f.Means d v := by
  rcases (exists_readEntry_iff hw).mp (readSettings_record_eq_ok_iff.mp ht f) with ⟨d', hd', hr⟩ | ⟨hl, -⟩
  · rw [← eq_of_mem_of_mem hw hd hd'] at hr
    exact ⟨_, Field.means_of_read (hw.entry hd) hs hr⟩
  · exact absurd hd (hl d)

theorem exists_readSettings_iff (hs : ∀ (f : Field) items, (f.name, .sequence items) ∉ entries) :
    (∃ t, readSettings (.record entries) = .ok t) ↔ ∀ (f : Field) d, (f.name, d) ∈ entries → ∃ v, f.Means d v := by
  constructor
  · rintro ⟨t, ht⟩ f d hd
    refine exists_means_of_readSettings hw ht hd ?_
    rintro items rfl
    exact hs f items hd
  · intro hm
    have hvalue (f : Field) : ∃ v : f.Value, (Holds entries f.name fun d => f.read d = .ok v) ∨
        Lacks entries f.name ∧ standard.value f = v := by
      by_cases hl : Lacks entries f.name
      · exact ⟨_, .inr ⟨hl, rfl⟩⟩
      · obtain ⟨d, hd⟩ := not_forall_not.mp hl
        obtain ⟨v, hv⟩ := hm f d hd
        exact ⟨v, .inl ⟨d, hd, hv.read_eq (hw.entry hd)⟩⟩
    choose v hv using hvalue
    exact ⟨ofValues v, (readSettings_ofValues_iff hw).mpr hv⟩

end

/-! ## Written settings -/

theorem Field.means_bounds_document (b : Bounds Float) : Field.bounds.Means b.document b :=
  ⟨b.corners.map fun c => (c.1, .real c.2), rfl, fun c hc => ⟨.real c.2, List.mem_map_of_mem hc, .real c.2⟩⟩

theorem Field.means_grid_document (g : Grid) : Field.grid.Means g.document g :=
  ⟨g.sides.map fun c => (c.1, .natural c.2), rfl, fun c hc => ⟨.natural c.2, List.mem_map_of_mem hc, rfl⟩⟩

theorem exists_document_eq (s : Settings) :
    ∃ entries, s.document = .record entries ∧ ∀ f : Field, Holds entries f.name fun d => f.Means d (s.value f) := by
  refine ⟨_, rfl, fun f => ?_⟩
  cases f with
  | bounds => exact ⟨s.bounds.document, by simp [Field.name], Field.means_bounds_document s.bounds⟩
  | grid => exact ⟨s.grid.document, by simp [Field.name], Field.means_grid_document s.grid⟩
  | arrowLength => exact ⟨.real s.arrowLength, by simp [Field.name], .real s.arrowLength⟩
  | timeStep => exact ⟨.real s.timeStep, by simp [Field.name], .real s.timeStep⟩
  | halfSteps => exact ⟨.natural s.halfSteps, by simp [Field.name], rfl⟩
  | maxTrajectories => exact ⟨.natural s.maxTrajectories, by simp [Field.name], rfl⟩

theorem Finite.wellFormed_document {s : Settings} (h : s.Finite) : s.document.WellFormed := by
  simp only [Finite, Bounds.corners, List.map_cons, List.map_nil, List.cons_append, List.nil_append,
    List.forall_mem_cons] at h
  obtain ⟨hMinX, hMinY, hMaxX, hMaxY, hArrow, hStep, -⟩ := h
  have hbounds : s.bounds.document.WellFormed := by
    have hnames : Field.bounds.parts.Nodup := by decide
    refine .record hnames ?_
    simp only [List.forall_mem_cons]
    exact ⟨.real hMinX, .real hMinY, .real hMaxX, .real hMaxY, nofun⟩
  have hgrid : s.grid.document.WellFormed := by
    have hnames : Field.grid.parts.Nodup := by decide
    refine .record hnames ?_
    simp only [List.forall_mem_cons]
    exact ⟨.natural _, .natural _, nofun⟩
  have hnames : ([.bounds, .grid, .arrowLength, .timeStep, .halfSteps, .maxTrajectories].map Field.name).Nodup := by
    decide
  refine .record hnames ?_
  simp only [List.forall_mem_cons]
  exact ⟨hbounds, hgrid, .real hArrow, .real hStep, .natural _, .natural _, nofun⟩

/-- A record that holds some fields of settings under their names, in any order and among other names, is read as the
settings with these fields and the standard values of those it lacks; holding all of them it is read as the settings.
A record whose fields are no sequences is read only, and always, if each field in it has the type that it has to have,
and one whose rectangle or grid lacks a part is never read. All finite settings are read from what is written for them,
no matter whether they are accepted. -/
theorem readSettings_fills_gaps :
    (∀ (s : Settings) (kept : Field → Bool) (entries : List (String × Document)), (Document.record entries).WellFormed →
      (∀ f, kept f = true → Holds entries f.name fun d => f.Means d (s.value f)) →
      (∀ f, kept f = false → Lacks entries f.name) →
      readSettings (.record entries) = .ok (ofValues fun f => if kept f then s.value f else standard.value f) ∧
      ((∀ f, kept f = true) → readSettings (.record entries) = .ok s)) ∧
    (∀ entries, (Document.record entries).WellFormed → (∀ (f : Field) items, (f.name, .sequence items) ∉ entries) →
      ((∃ t, readSettings (.record entries) = .ok t) ↔
        ∀ (f : Field) d, (f.name, d) ∈ entries → ∃ v, f.Means d v)) ∧
    (∀ entries, (Document.record entries).WellFormed → ∀ (f : Field) parts name, (f.name, .record parts) ∈ entries →
      name ∈ f.parts → Lacks parts name → ∃ e, readSettings (.record entries) = .error e) ∧
    ∀ s : Settings, s.Finite → s.document.WellFormed ∧ (∃ entries, s.document = .record entries) ∧
      readSettings s.document = .ok s := by
  have hfull {s : Settings} {kept : Field → Bool} (hk : ∀ f, kept f = true) :
      (ofValues fun f => if kept f then s.value f else standard.value f) = s := by
    apply eq_of_value
    intro f
    rw [value_ofValues, if_pos (hk f)]
  refine ⟨?_, fun entries hw hs => exists_readSettings_iff hw hs, ?_, ?_⟩
  · intro s kept entries hw hkept hleft
    have hread := readSettings_of_means hw s kept hkept hleft
    refine ⟨hread, fun hk => ?_⟩
    rwa [hfull hk] at hread
  · intro entries hw f parts name hd hname hl
    cases hr : readSettings (.record entries) with
    | error e => exact ⟨e, rfl⟩
    | ok t =>
      obtain ⟨v, hm⟩ := exists_means_of_readSettings hw hr hd nofun
      exact absurd hl (hm.holds hname)
  · intro s h
    obtain ⟨entries, he, hm⟩ := exists_document_eq s
    have hw := h.wellFormed_document
    rw [he] at hw ⊢
    have hread := readSettings_of_means hw s (fun _ => true) (fun f _ => hm f) nofun
    rw [hfull fun _ => rfl] at hread
    exact ⟨hw, ⟨entries, rfl⟩, hread⟩

/-- A rectangle that lies the wrong way round is read all the same, from numbers of all kinds; one without its right side
is not. -/
theorem readSettings_fills_gaps_inverted :
    let s := { standard with bounds := ⟨1.5, -3, 0.5, 2⟩, halfSteps := 5 }
    let corners : List (String × Document) := [("max_y", .natural 2), ("note", .text "?"), ("min_x", .real 1.5),
      ("min_y", .negative (-3)), ("max_x", .real 0.5)]
    let entries (corners : List (String × Document)) : List (String × Document) :=
      [("half_steps", .natural 5), ("extra", .sequence [.null]), ("bounds", .record corners)]
    readSettings (.record (entries corners)) = .ok s ∧ ¬s.check = .ok () ∧
    (∃ e, readSettings (.record (entries (corners.take 4))) = .error e) ∧
    (¬∃ t, readSettings (.record [("dt", .text "0.1")]) = .ok t) ∧
    readSettings s.document = .ok s := by
  intro s corners entries
  have hcorners : (Document.record corners).WellFormed := by
    refine .record (by decide) ?_
    simp only [corners, List.forall_mem_cons]
    exact ⟨.natural 2, .text "?", .real (by decide +kernel), .negative (by decide) (by decide),
      .real (by decide +kernel), nofun⟩
  have hfew : (Document.record (corners.take 4)).WellFormed :=
    .record (hcorners.nodup.sublist ((List.take_sublist 4 corners).map _))
      fun e he => hcorners.entry (List.mem_of_mem_take he)
  have hentries {c : List (String × Document)} (hc : (Document.record c).WellFormed) :
      (Document.record (entries c)).WellFormed := by
    have hnames : ["half_steps", "extra", "bounds"].Nodup := by decide
    refine .record hnames ?_
    simp only [entries, List.forall_mem_cons]
    exact ⟨.natural 5, .sequence fun d hd => List.mem_singleton.mp hd ▸ .null, hc, nofun⟩
  have hbounds : Field.bounds.Means (.record corners) ⟨1.5, -3, 0.5, 2⟩ := by
    have htwo : (2 : UInt64).toFloat = 2 := by decide +kernel
    have hminus : Float.ofInt (-3) = -3 := by decide +kernel
    refine ⟨corners, rfl, ?_⟩
    simp only [Bounds.corners, List.forall_mem_cons]
    exact ⟨⟨_, by simp [corners], .real 1.5⟩, ⟨.negative (-3), by simp [corners], hminus ▸ .negative (-3)⟩,
      ⟨_, by simp [corners], .real 0.5⟩, ⟨.natural 2, by simp [corners], htwo ▸ .natural 2⟩, nofun⟩
  have hfinite : s.Finite := by
    unfold Finite
    decide +kernel
  obtain ⟨hread, htypes, hparts, hwritten⟩ := readSettings_fills_gaps
  refine ⟨?_, by decide +kernel, ?_, ?_, (hwritten s hfinite).2.2⟩
  · refine (hread s (fun f => [Field.bounds, .halfSteps].contains f) _ (hentries hcorners) ?_ ?_).1
    · intro f hf
      cases f with
      | bounds => exact ⟨_, by simp [entries, Field.name], hbounds⟩
      | halfSteps => exact ⟨.natural 5, by simp [entries, Field.name], rfl⟩
      | grid | arrowLength | timeStep | maxTrajectories => cases hf
    · intro f hf d hd
      cases f with
      | bounds | halfSteps => cases hf
      | grid | arrowLength | timeStep | maxTrajectories => simp [entries, Field.name] at hd
  · refine hparts _ (hentries hfew) .bounds (corners.take 4) "max_x" (by simp [entries, Field.name]) (by decide) ?_
    intro d hd
    simp [corners] at hd
  · have htext : (Document.record [("dt", .text "0.1")]).WellFormed := .record (by decide) (by simp [WellFormed.text])
    rw [htypes _ htext (by simp)]
    intro h
    obtain ⟨v, hv⟩ := h .timeStep (.text "0.1") (by simp [Field.name])
    cases hv

end Settings
end PhasePortrait
