import Broadphase.Proofs.Region.Squares
import Broadphase.Proofs.Grid.Directory
import Broadphase.Proofs.Grid.Query

/-!
# Boxes on a grid

A shape is placed by its bounding box, and the objects near another box are found
by the cells that this box overlaps.

* `regionFor?_squares`: where a shape is placed. With exact scalars, it occupies
  the cells whose squares its bounding box meets, and it cannot be placed if a side
  of the bounding box is beyond the edges of the grid;
* `Consistent.mem_of_intersects`: no object whose bounding box overlaps a box is
  missed. Nothing need be exact for that, and the corners of the box may even be
  the wrong way around, as long as it can be placed;
* `Consistent.gapLT_of_mem`: with exact scalars, objects that are found are less
  than a cell away;
* `inBounds?_run`: both of them after any run.
-/

namespace Broadphase.Grid

section Found

variable {ι S : Type} [Handle ι] [Scalar S] {g : Grid ι S} {a : ι} {shape : Shape S} {r : Region}
  {b : Bounds S} {found : List ι}

theorem regionFor?_eq_some_iff (hvalid : shape.isValid) :
    g.regionFor? shape = some r ↔ Region.covering? g.cellSize shape.bounds = some r := by
  rw [regionFor?, Shape.region?_eq_some_iff, and_iff_right hvalid]

theorem inBounds?_eq_some_iff : g.inBounds? b = some found ↔
    ∃ r, Region.covering? g.cellSize b = some r ∧ g.inRegion r = found := by
  rw [inBounds?, Option.map_eq_some_iff]

/-- The objects in a region are those whose shapes have a cell in it. -/
theorem Consistent.mem_inRegion_iff_shape (h : g.Consistent) : a ∈ g.inRegion r ↔
    ∃ shape, g.shape? a = some shape ∧ ∃ r', g.regionFor? shape = some r' ∧ ∃ c ∈ r', c ∈ r := by
  rw [h.mem_inRegion_iff, h.region?_eq]
  simp only [Option.bind_eq_some_iff]
  constructor
  · rintro ⟨r', ⟨shape, hshape, hr'⟩, hcell⟩
    exact ⟨shape, hshape, r', hr', hcell⟩
  · rintro ⟨shape, hshape, r', hr', hcell⟩
    exact ⟨r', ⟨shape, hshape, hr'⟩, hcell⟩

theorem Consistent.exists_regionFor? (h : g.Consistent) (hshape : g.shape? a = some shape) :
    ∃ r, g.regionFor? shape = some r := by
  obtain ⟨o, ho, rfl⟩ := Option.map_eq_some_iff.1 hshape
  exact ⟨o.region, h.region_eq a o ho⟩

/-- No object whose bounding box overlaps a box is missed. -/
theorem Consistent.mem_of_intersects (h : g.Consistent) (hS : Scalar.Monotone S)
    (hfinite : Scalar.isFinite g.cellSize) (hcell : 0 < g.cellSize)
    (hfound : g.inBounds? b = some found) (hshape : g.shape? a = some shape)
    (hoverlap : shape.bounds.Intersects b) : a ∈ found := by
  obtain ⟨r, hr, rfl⟩ := inBounds?_eq_some_iff.1 hfound
  obtain ⟨r', hr'⟩ := h.exists_regionFor? hshape
  obtain ⟨-, hcov⟩ := Shape.region?_eq_some_iff.1 hr'
  exact h.mem_inRegion_iff_shape.2 ⟨shape, hshape, r', hr',
    Region.exists_mem_of_intersects hS hfinite hcell hcov hr hoverlap⟩

end Found

/-! ## Exact scalars -/

variable {ι K : Type} [Handle ι] [Field K] [LinearOrder K] [FloorRing K] [IsStrictOrderedRing K]
  {g : Grid ι K} {a : ι} {shape : Shape K} {b : Bounds K} {found : List ι}

/-- A valid shape cannot be placed exactly if some side of its bounding box is beyond the edges of
    the grid. If it can, it occupies the cells whose squares the box meets. -/
theorem regionFor?_squares (hcell : 0 < g.cellSize) (hvalid : shape.isValid) :
    (g.regionFor? shape = none ↔ ∃ x ∈ shape.bounds.coordinates,
      ¬ (-2 ^ 31 ≤ ⌊x / g.cellSize⌋ ∧ ⌊x / g.cellSize⌋ ≤ 2 ^ 31 - 1)) ∧
    ∀ r, g.regionFor? shape = some r → r.Ordered ∧
      ∀ c, c ∈ r ↔ ∃ p, shape.bounds.Contains p ∧ c.Holds g.cellSize p := by
  have hordered : shape.bounds.Ordered := Shape.bounds_ordered hvalid
  constructor
  · rw [Option.eq_none_iff_forall_ne_some, ← not_exists]
    simp only [regionFor?_eq_some_iff hvalid]
    rw [Region.exists_covering?_iff hcell hordered]
    push Not
    rfl
  · intro r hr
    have hcov := (regionFor?_eq_some_iff hvalid).1 hr
    exact ⟨Region.ordered_of_covering? hcov, fun c => Region.mem_covering?_iff hcell hordered hcov⟩

/-- A disk that touches the sides of cells, and one with a part in the last column and another
    beyond it. -/
theorem regionFor?_squares_touching :
    let g : Grid UInt32 ℚ := empty 2
    let touching : Shape ℚ := { position := ⟨-1, 1⟩, extent := .disk 1 }
    let beyond : Shape ℚ := { position := ⟨4294967295, 1⟩, extent := .disk 1 }
    0 < g.cellSize ∧ touching.isValid ∧ beyond.isValid ∧
      g.regionFor? touching = some ⟨⟨-1, 0⟩, ⟨0, 1⟩⟩ ∧
      (∀ c, c ∈ (⟨⟨-1, 0⟩, ⟨0, 1⟩⟩ : Region) ↔
        ∃ p, touching.bounds.Contains p ∧ c.Holds g.cellSize p) ∧
      (∃ x ∈ beyond.bounds.coordinates,
        ¬ (-2 ^ 31 ≤ ⌊x / g.cellSize⌋ ∧ ⌊x / g.cellSize⌋ ≤ 2 ^ 31 - 1)) ∧
      g.regionFor? beyond = none := by
  intro g touching beyond
  have hcell : 0 < g.cellSize := by decide +kernel
  have htouching : touching.isValid := by decide +kernel
  have hbeyond : beyond.isValid := by decide +kernel
  have hregion : g.regionFor? touching = some ⟨⟨-1, 0⟩, ⟨0, 1⟩⟩ := by decide +kernel
  have hnone : g.regionFor? beyond = none := by decide +kernel
  obtain ⟨-, hmeets⟩ := regionFor?_squares hcell htouching
  obtain ⟨hoff, -⟩ := regionFor?_squares hcell hbeyond
  exact ⟨hcell, htouching, hbeyond, hregion, (hmeets _ hregion).2, hoff.1 hnone, hnone⟩

/-- Objects that are found are less than a cell away. -/
theorem Consistent.gapLT_of_mem (h : g.Consistent) (hcell : 0 < g.cellSize) (hb : b.Ordered)
    (hfound : g.inBounds? b = some found) (ha : a ∈ found) :
    ∃ shape, g.shape? a = some shape ∧ shape.bounds.GapLT g.cellSize b := by
  obtain ⟨r, hr, rfl⟩ := inBounds?_eq_some_iff.1 hfound
  obtain ⟨shape, hshape, r', hr', c, hc', hc⟩ := h.mem_inRegion_iff_shape.1 ha
  obtain ⟨hvalid, hcov⟩ := Shape.region?_eq_some_iff.1 hr'
  have hordered : shape.bounds.Ordered := Shape.bounds_ordered hvalid
  -- Both boxes meet the square of a cell that they share.
  obtain ⟨p, hp, hcp⟩ := (Region.mem_covering?_iff hcell hordered hcov).1 hc'
  obtain ⟨q, hq, hcq⟩ := (Region.mem_covering?_iff hcell hb hr).1 hc
  exact ⟨shape, hshape, Bounds.gapLT_of_holds hp hq hcp hcq⟩

/-- In every state that a new grid is brought to, the objects near a box that can be placed are
    found in order: all those whose bounding boxes overlap it and, unless its corners are the wrong
    way around, only such as are less than a cell away on each axis. -/
theorem inBounds?_run {cellSize : K} (hg : new cellSize = .ok g) (actions : List (Action ι K))
    (hfound : (g.run actions).inBounds? b = some found) :
    Ascending found ∧
      (∀ a shape, (g.run actions).shape? a = some shape → shape.bounds.Intersects b →
        a ∈ found) ∧
      (b.Ordered → ∀ a ∈ found, ∃ shape, (g.run actions).shape? a = some shape ∧
        shape.bounds.GapLT cellSize b) := by
  have hpos : 0 < cellSize := (new_eq_ok_iff.1 hg).1.2
  obtain ⟨hconsistent, hcellSize, -⟩ := holds_run hg actions
  have hcell : 0 < (g.run actions).cellSize := hcellSize ▸ hpos
  refine ⟨?_, fun a shape hshape hoverlap => ?_, fun hb a ha => ?_⟩
  · obtain ⟨r, -, rfl⟩ := inBounds?_eq_some_iff.1 hfound
    exact ascending_inRegion
  · exact hconsistent.mem_of_intersects Scalar.monotone_exact (Scalar.isFinite_exact _) hcell
      hfound hshape hoverlap
  · rw [← hcellSize]
    exact hconsistent.gapLT_of_mem hcell hb hfound ha

/-- A box with its corners the wrong way around, and one that is near the object that has been
    moved, but does not overlap it. -/
theorem inBounds?_run_near :
    let actions : List (Action UInt32 ℚ) := [
      .insert 1 { position := ⟨0, 0⟩, extent := .disk 15 },
      .insert 2 { position := ⟨5, 5⟩, extent := .box 20 10 },
      .relocate 1 { position := ⟨37, 5⟩, extent := .point }]
    let g : Grid UInt32 ℚ := (empty 10).run actions
    let backwards : Bounds ℚ := ⟨⟨4, 3⟩, ⟨2, 1⟩⟩
    let beside : Bounds ℚ := ⟨⟨38, 0⟩, ⟨39, 5⟩⟩
    new (10 : ℚ) = .ok (empty 10 : Grid UInt32 ℚ) ∧ g.inBounds? backwards = some [2] ∧
      (∀ a shape, g.shape? a = some shape → shape.bounds.Intersects backwards → a ∈ [2]) ∧
      g.inBounds? beside = some [1] ∧ beside.Ordered ∧
      ∀ a ∈ [1], ∃ shape, g.shape? a = some shape ∧ shape.bounds.GapLT 10 beside := by
  intro actions g backwards beside
  have h : new (10 : ℚ) = .ok (empty 10 : Grid UInt32 ℚ) := new_exact (by norm_num)
  have hbackwards : g.inBounds? backwards = some [2] := by decide +kernel
  have hbeside : g.inBounds? beside = some [1] := by decide +kernel
  have hordered : beside.Ordered := ⟨by decide +kernel, by decide +kernel⟩
  obtain ⟨-, hall, -⟩ := inBounds?_run h actions hbackwards
  obtain ⟨-, -, hnear⟩ := inBounds?_run h actions hbeside
  exact ⟨h, hbackwards, hall, hbeside, hordered, hnear hordered⟩

end Broadphase.Grid
