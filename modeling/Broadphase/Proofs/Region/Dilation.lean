import Broadphase.Proofs.Region.Distance

/-!
# Dilated regions

Dilating moves every side of a region outwards, by at most the greatest
coordinate (`Region.growth`) and not beyond the edges of the grid. So the cells of
a dilated region are those at most so far away from the region
(`Region.mem_dilate`), and a region has one of them if it is so near
(`Region.near_growth_iff`): those are the regions that the dilated region overlaps
(`Region.dilate_intersects_iff`).

The grid is wider than the greatest coordinate: from a cell in the left half of
it, a margin above that coordinate does not reach all the cells that are no
further away than the margin.
-/

namespace Broadphase

theorem Cell.toInt_clampCoordinate (n : Int) : (clampCoordinate n).toInt =
    max leastCoordinate (min n greatestCoordinate) := by
  rw [clampCoordinate, leastCoordinate, greatestCoordinate]
  exact Int32.toInt_ofInt_of_le (by omega) (by omega)

namespace Region

variable {r r' : Region} {c : Cell} {margin : UInt32}

/-- The number of cells by which a side is moved, if no edge of the grid is in the way. -/
def growth (margin : UInt32) : Nat := min margin.toNat Cell.greatestCoordinate.toNat

/-- A coordinate between two sides that are moved to the nearest coordinates is between the places
    that they are moved to. -/
theorem clampCoordinate_between_iff {l u k : Int32} {n : Nat} :
    (Cell.clampCoordinate (l.toInt + -n)).toInt ≤ k.toInt ∧
        k.toInt ≤ (Cell.clampCoordinate (u.toInt + n)).toInt ↔
      l.toInt ≤ k.toInt + n ∧ k.toInt ≤ u.toInt + n := by
  have hk : Cell.leastCoordinate ≤ k.toInt ∧ k.toInt ≤ Cell.greatestCoordinate :=
    ⟨k.le_toInt, k.toInt_le⟩
  have hl : l.toInt ≤ Cell.greatestCoordinate := l.toInt_le
  have hu : Cell.leastCoordinate ≤ u.toInt := u.le_toInt
  rw [Cell.toInt_clampCoordinate, Cell.toInt_clampCoordinate]
  omega

/-- A dilated region has the cells that the exact sums give: a coordinate is clamped only where the
    grid ends anyway. -/
theorem mem_dilate_iff : c ∈ r.dilate margin ↔
    (r.lower.col.toInt ≤ c.col.toInt + growth margin ∧
      c.col.toInt ≤ r.upper.col.toInt + growth margin) ∧
    r.lower.row.toInt ≤ c.row.toInt + growth margin ∧
      c.row.toInt ≤ r.upper.row.toInt + growth margin := by
  have hgrowth : min (margin.toNat : Int) Cell.greatestCoordinate = growth margin := by
    simp only [growth, Cell.greatestCoordinate]
    omega
  simp only [mem_iff, dilate, Cell.clampedOffset, hgrowth]
  exact and_congr clampCoordinate_between_iff clampCoordinate_between_iff

theorem mem_single {d : Cell} : d ∈ single c ↔ d = c := by
  simp only [mem_iff, Cell.eq_iff, single]
  omega

/-- The cells of a dilated region are those that are so near to the region. -/
theorem mem_dilate (hr : r.Ordered) :
    c ∈ r.dilate margin ↔ ∃ d ∈ r, d.distance c ≤ growth margin := by
  have hnear : Near (growth margin) r (single c) ↔ ∃ d ∈ r, d.distance c ≤ growth margin := by
    simp only [Near, mem_single, exists_eq_left]
  have hc : (single c).Ordered := ordered_iff.2 ⟨Int.le_refl _, Int.le_refl _⟩
  rw [← hnear, near_iff hr hc, mem_dilate_iff]
  exact Iff.rfl

/-- Regions are near each other if one of them, dilated, meets the other. -/
theorem near_growth_iff (hr : r.Ordered) :
    Near (growth margin) r r' ↔ ∃ c ∈ r', c ∈ r.dilate margin := by
  simp only [mem_dilate hr, Near]
  constructor
  · rintro ⟨d, hd, c, hc, h⟩
    exact ⟨c, hc, d, hd, h⟩
  · rintro ⟨c, hc, d, hd, h⟩
    exact ⟨d, hd, c, hc, h⟩

theorem ordered_dilate (hr : r.Ordered) : (r.dilate margin).Ordered := by
  have hlower : r.lower ∈ r.dilate margin := (mem_dilate hr).2
    ⟨r.lower, lower_mem hr, Nat.le_trans (Cell.distance_le_zero_iff.2 rfl) (Nat.zero_le _)⟩
  exact ordered_of_mem hlower

/-- A dilated region overlaps those near the region. -/
theorem dilate_intersects_iff (hr : r.Ordered) (hr' : r'.Ordered) :
    (r.dilate margin).Intersects r' ↔ Near (growth margin) r r' := by
  rw [intersects_iff_exists_mem (ordered_dilate hr) hr', near_growth_iff hr]
  exact exists_congr fun _ => and_comm

end Region

end Broadphase
