import Broadphase.Proofs.Scalar.Exact
import Mathlib.Tactic.GCongr
import Broadphase.NarrowPhase
import Broadphase.Proofs.Region.Distance
import Broadphase.Proofs.Scalar.Monotone

/-!
# Covering boxes

Boxes that overlap are covered by regions with a cell in common
(`Region.exists_mem_of_intersects`). Nothing need be exact for that: it is enough
that scalars are monotone.

With exact scalars, the corners of the region that covers a box are the corners
of the box divided by the cell size, rounded down (`Region.covering?_exact_iff`).
Boxes that are at most one cell size apart on each axis are therefore covered by
regions that are at most one cell apart (`Region.near_of_gap`): rounding down
adds no more than a cell to a gap of one cell, even if that is the exact gap.
-/

namespace Broadphase

/-! ## Overlaps -/

section Overlaps

variable {S : Type} [Scalar S] {cellSize : S} {a b : Bounds S} {r r' : Region}

/-- Columns and rows are in the order of the positions in them. -/
theorem Cell.coordinateOf?_le {x y : S} {k l : Int32} (hS : Scalar.Monotone S)
    (hfinite : Scalar.isFinite cellSize) (hcell : 0 < cellSize) (hxy : x ≤ y)
    (hk : coordinateOf? cellSize x = some k) (hl : coordinateOf? cellSize y = some l) : k ≤ l :=
  hS.floor_le_floor (hS.div_le_div hfinite hcell hxy) hk hl

namespace Region

/-- A box is covered by a region with its corners the right way around. -/
theorem ordered_of_covering? (h : covering? cellSize a = some r) : r.Ordered :=
  (covering?_eq_some_iff.1 h).2.2

/-- The regions of boxes that overlap have a cell in common. -/
theorem exists_mem_of_intersects (hS : Scalar.Monotone S) (hfinite : Scalar.isFinite cellSize)
    (hcell : 0 < cellSize) (ha : covering? cellSize a = some r)
    (hb : covering? cellSize b = some r') (h : a.Intersects b) : ∃ c ∈ r, c ∈ r' := by
  simp only [covering?_eq_some_iff, Cell.ofPoint?_eq_some_iff] at ha hb
  obtain ⟨⟨hlx, hly⟩, ⟨hux, huy⟩, hr⟩ := ha
  obtain ⟨⟨hlx', hly'⟩, ⟨hux', huy'⟩, hr'⟩ := hb
  obtain ⟨hx, hy, hx', hy'⟩ := h
  have hle {x y : S} {k l : Int32} (hxy : x ≤ y) (hk : Cell.coordinateOf? cellSize x = some k)
      (hl : Cell.coordinateOf? cellSize y = some l) : k ≤ l :=
    Cell.coordinateOf?_le hS hfinite hcell hxy hk hl
  -- No corner is rounded past one that was not before it.
  have hregions : r.Intersects r' :=
    ⟨⟨hle hx hlx hux', hle hx' hlx' hux⟩, hle hy hly huy', hle hy' hly' huy⟩
  exact (intersects_iff_exists_mem hr hr').1 hregions

end Region

end Overlaps

/-! ## Gaps -/

variable {K : Type} [Field K] [LinearOrder K] [FloorRing K] {cellSize : K}

namespace Cell

/-- With exact scalars, the column or row of a position is a floor. -/
theorem coordinateOf?_eq_some_iff {x : K} {k : Int32} :
    coordinateOf? cellSize x = some k ↔ k.toInt = ⌊x / cellSize⌋ := by
  rw [coordinateOf?]
  exact coordinate?_eq_some_iff

end Cell

/-- Two boxes are at most `gap` apart on each axis. -/
def Bounds.GapLE (gap : K) (a b : Bounds K) : Prop :=
  axisGap a.lower.x a.upper.x b.lower.x b.upper.x ≤ gap ∧
    axisGap a.lower.y a.upper.y b.lower.y b.upper.y ≤ gap

theorem Bounds.axisGap_le_iff [IsStrictOrderedRing K] {l u l' u' gap : K} (hgap : 0 ≤ gap) :
    axisGap l u l' u' ≤ gap ↔ l ≤ u' + gap ∧ l' ≤ u + gap := by
  simp only [axisGap, Scalar.larger_exact, max_le_iff, hgap, and_true, sub_le_iff_le_add']
  exact and_comm

namespace Region

variable {a b : Bounds K} {r r' : Region}

theorem covering?_exact_iff : covering? cellSize a = some r ↔
    (r.lower.col.toInt = ⌊a.lower.x / cellSize⌋ ∧ r.lower.row.toInt = ⌊a.lower.y / cellSize⌋) ∧
      (r.upper.col.toInt = ⌊a.upper.x / cellSize⌋ ∧ r.upper.row.toInt = ⌊a.upper.y / cellSize⌋) ∧
      r.Ordered := by
  simp only [covering?_eq_some_iff, Cell.ofPoint?_eq_some_iff, Cell.coordinateOf?_eq_some_iff]

variable [IsStrictOrderedRing K]

/-- Two positions that are at most a cell size apart are at most one coordinate apart. -/
theorem floor_div_le_add_one {x y : K} (hcell : 0 < cellSize) (h : x ≤ y + cellSize) :
    ⌊x / cellSize⌋ ≤ ⌊y / cellSize⌋ + 1 := by
  rw [← Int.floor_add_one]
  refine Int.floor_mono ?_
  rw [div_add_one hcell.ne']
  gcongr

/-- Boxes at most a cell apart are covered by cells that are the same or adjacent. -/
theorem near_of_gap {gap : K} (hcell : 0 < cellSize) (hgap : 0 ≤ gap) (hle : gap ≤ cellSize)
    (ha : covering? cellSize a = some r) (hb : covering? cellSize b = some r')
    (h : a.GapLE gap b) : Near 1 r r' := by
  obtain ⟨⟨hlx, hly⟩, ⟨hux, huy⟩, hr⟩ := covering?_exact_iff.1 ha
  obtain ⟨⟨hlx', hly'⟩, ⟨hux', huy'⟩, hr'⟩ := covering?_exact_iff.1 hb
  have hfloor {x y : K} (hxy : x ≤ y + gap) : ⌊x / cellSize⌋ ≤ ⌊y / cellSize⌋ + 1 :=
    floor_div_le_add_one hcell (hxy.trans (by gcongr))
  -- On neither axis does one box begin more than a cell size after the end of the other.
  rw [near_iff hr hr', hlx, hly, hux, huy, hlx', hly', hux', huy']
  have hx := (Bounds.axisGap_le_iff hgap).1 h.1
  have hy := (Bounds.axisGap_le_iff hgap).1 h.2
  exact ⟨⟨hfloor hx.1, hfloor hx.2⟩, hfloor hy.1, hfloor hy.2⟩

end Region

end Broadphase
