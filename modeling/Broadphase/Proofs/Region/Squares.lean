import Broadphase.Proofs.NarrowPhase.Points
import Broadphase.Proofs.Region.Cells
import Mathlib.Order.Interval.Set.Defs

/-!
# Cells as squares

With exact scalars, a cell stands for a square of the plane. The square is
half-open: it contains its sides towards the lower columns and rows, but not the
other two (`Cell.Holds`).

* `Cell.exists_coordinateOf?_iff`: how far the columns and rows of the grid go;
* `Region.exists_covering?_iff`: a box is covered by a region exactly if all of its
  sides are on the grid;
* `Region.mem_covering?_iff`: the cells of this region are those whose squares
  have a point in common with the box;
* `Bounds.gapLT_of_holds`: boxes that share a square are less than its side apart
  on each axis.
-/

namespace Broadphase

variable {K : Type} [Field K] [LinearOrder K] [IsStrictOrderedRing K] {cellSize x y : K}
  {p q : Point K} {c : Cell} {k : Int}

/-! ## Points of a square -/

/-- Two positions in the same column or row are less than a cell apart. -/
theorem abs_sub_lt_of_mem_Ico (hx : x ∈ Set.Ico (k * cellSize) ((k + 1) * cellSize))
    (hy : y ∈ Set.Ico (k * cellSize) ((k + 1) * cellSize)) : |y - x| < cellSize := by
  rw [Set.mem_Ico, add_one_mul] at hx hy
  rw [abs_sub_lt_iff]
  exact ⟨by linarith, by linarith⟩

variable [FloorRing K]

/-- A column or row holds the positions from its beginning to that of the next one. -/
theorem floor_div_eq_iff (hcell : 0 < cellSize) :
    ⌊x / cellSize⌋ = k ↔ x ∈ Set.Ico (k * cellSize) ((k + 1) * cellSize) := by
  rw [Int.floor_eq_iff, le_div_iff₀ hcell, div_lt_iff₀ hcell, Set.mem_Ico]

/-- An interval meets the columns or rows between those of its ends. -/
theorem exists_mem_Ico_iff (hcell : 0 < cellSize) {l u : K} (h : l ≤ u) :
    (∃ x, (l ≤ x ∧ x ≤ u) ∧ x ∈ Set.Ico (k * cellSize) ((k + 1) * cellSize)) ↔
      ⌊l / cellSize⌋ ≤ k ∧ k ≤ ⌊u / cellSize⌋ := by
  constructor
  · rintro ⟨x, ⟨hl, hu⟩, hx⟩
    obtain rfl := (floor_div_eq_iff hcell).2 hx
    exact ⟨Int.floor_mono (by gcongr), Int.floor_mono (by gcongr)⟩
  · rintro ⟨hl, hu⟩
    -- The first of the points that are in the interval and not before the square.
    have hl' : l < (k + 1) * cellSize := by
      rw [← div_lt_iff₀ hcell]
      exact_mod_cast Int.floor_lt.1 (Int.lt_add_one_of_le hl)
    have hu' : k * cellSize ≤ u := by
      rw [← le_div_iff₀ hcell]
      exact Int.le_floor.1 hu
    refine ⟨max l (k * cellSize), ⟨le_max_left _ _, max_le h hu'⟩, le_max_right _ _,
      max_lt hl' ?_⟩
    rw [add_one_mul]
    exact lt_add_of_pos_right _ hcell

namespace Cell

/-- A point is in the square of a cell. -/
def Holds (cellSize : K) (c : Cell) (p : Point K) : Prop :=
  p.x ∈ Set.Ico (c.col.toInt * cellSize) ((c.col.toInt + 1) * cellSize) ∧
    p.y ∈ Set.Ico (c.row.toInt * cellSize) ((c.row.toInt + 1) * cellSize)

omit [IsStrictOrderedRing K] in
/-- How far the columns and rows go: they have the numbers of 32-bit words. -/
theorem exists_coordinateOf?_iff :
    (∃ k, coordinateOf? cellSize x = some k) ↔
      -2 ^ 31 ≤ ⌊x / cellSize⌋ ∧ ⌊x / cellSize⌋ ≤ 2 ^ 31 - 1 := by
  simp only [coordinateOf?_eq_some_iff]
  constructor
  · rintro ⟨k, hk⟩
    rw [← hk]
    exact ⟨k.le_toInt, k.toInt_le⟩
  · rintro ⟨hl, hu⟩
    exact ⟨.ofInt ⌊x / cellSize⌋, Int32.toInt_ofInt_of_le hl (Int.lt_of_le_sub_one hu)⟩

end Cell

/-! ## Boxes -/

namespace Bounds

variable {a b : Bounds K}

/-- Two boxes are less than `gap` apart on each axis. -/
def GapLT (gap : K) (a b : Bounds K) : Prop :=
  axisGap a.lower.x a.upper.x b.lower.x b.upper.x < gap ∧
    axisGap a.lower.y a.upper.y b.lower.y b.upper.y < gap

/-- The coordinates of the sides of a box. -/
def coordinates (b : Bounds K) : List K := [b.lower.x, b.lower.y, b.upper.x, b.upper.y]

/-- Boxes with points in the same square are less than a cell apart on each axis. -/
theorem gapLT_of_holds (ha : a.Contains p) (hb : b.Contains q) (hp : c.Holds cellSize p)
    (hq : c.Holds cellSize q) : a.GapLT cellSize b := by
  obtain ⟨hlx, hly, hux, huy⟩ := ha
  obtain ⟨hlx', hly', hux', huy'⟩ := hb
  exact ⟨(axisGap_le_abs_sub hlx hux hlx' hux').trans_lt (abs_sub_lt_of_mem_Ico hp.1 hq.1),
    (axisGap_le_abs_sub hly huy hly' huy').trans_lt (abs_sub_lt_of_mem_Ico hp.2 hq.2)⟩

end Bounds

namespace Region

variable {b : Bounds K} {r : Region}

/-- A box is covered exactly if all of its sides are on the grid. -/
theorem exists_covering?_iff (hcell : 0 < cellSize) (hb : b.Ordered) :
    (∃ r, covering? cellSize b = some r) ↔
      ∀ x ∈ b.coordinates, -2 ^ 31 ≤ ⌊x / cellSize⌋ ∧ ⌊x / cellSize⌋ ≤ 2 ^ 31 - 1 := by
  simp only [Bounds.coordinates, List.forall_mem_cons, List.not_mem_nil, false_implies,
    implies_true, and_true, ← Cell.exists_coordinateOf?_iff]
  constructor
  · rintro ⟨r, hr⟩
    simp only [covering?_eq_some_iff, Cell.ofPoint?_eq_some_iff] at hr
    obtain ⟨⟨hlx, hly⟩, ⟨hux, huy⟩, -⟩ := hr
    exact ⟨⟨_, hlx⟩, ⟨_, hly⟩, ⟨_, hux⟩, ⟨_, huy⟩⟩
  · rintro ⟨⟨lx, hlx⟩, ⟨ly, hly⟩, ⟨ux, hux⟩, uy, huy⟩
    refine ⟨⟨⟨lx, ly⟩, ⟨ux, uy⟩⟩, ?_⟩
    -- Rounding down does not turn the corners around.
    simp only [Cell.coordinateOf?_eq_some_iff] at hlx hly hux huy
    rw [covering?_exact_iff, ordered_iff, hlx, hly, hux, huy]
    have hcorner {x y : K} (hxy : x ≤ y) : ⌊x / cellSize⌋ ≤ ⌊y / cellSize⌋ :=
      Int.floor_mono (by gcongr)
    exact ⟨⟨rfl, rfl⟩, ⟨rfl, rfl⟩, hcorner hb.1, hcorner hb.2⟩

/-- The cells that cover a box are those whose squares have a point in common with it. -/
theorem mem_covering?_iff (hcell : 0 < cellSize) (hb : b.Ordered)
    (hr : covering? cellSize b = some r) :
    c ∈ r ↔ ∃ p, b.Contains p ∧ c.Holds cellSize p := by
  obtain ⟨⟨hlx, hly⟩, ⟨hux, huy⟩, -⟩ := covering?_exact_iff.1 hr
  rw [mem_iff, hlx, hly, hux, huy, ← exists_mem_Ico_iff hcell hb.1, ← exists_mem_Ico_iff hcell hb.2]
  constructor
  · rintro ⟨⟨x, ⟨hx, hx'⟩, hcol⟩, y, ⟨hy, hy'⟩, hrow⟩
    exact ⟨⟨x, y⟩, ⟨hx, hy, hx', hy'⟩, hcol, hrow⟩
  · rintro ⟨p, ⟨hx, hy, hx', hy'⟩, hcol, hrow⟩
    exact ⟨⟨p.x, ⟨hx, hx'⟩, hcol⟩, p.y, ⟨hy, hy'⟩, hrow⟩

end Region

end Broadphase
