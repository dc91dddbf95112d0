import Broadphase.Grid.Query
import Broadphase.Proofs.Region.Dilation
import Broadphase.Proofs.Scan.Candidates

/-!
# Queries of a grid

The objects in a region are those with a cell in it, whichever of the two walks
collects them (`mem_inRegion`). Answers are in order and hold each handle once,
however many cells the object has in the region (`ascending_inRegion`).

The neighbors of an object are the other objects near it (`neighbors_run`), where
a radius above the greatest coordinate is cut to that coordinate. This is less
than the width of the grid, so a neighbor that is within the radius can be missed
(`neighbors_wide`).
-/

namespace Broadphase.Grid

variable {ι S : Type} [Handle ι] [Scalar S] {g : Grid ι S} {r : Region} {id a : ι}

/-! ## Objects in a region -/

omit [Scalar S] in
/-- The first walk finds the handles that are listed in the region. -/
theorem mem_walkRegion : a ∈ g.walkRegion r ↔ ∃ c ∈ r, a ∈ g.cells.members c := by
  simp only [walkRegion, List.mem_flatMap, Region.mem_cells]
  exact Iff.rfl

omit [Scalar S] in
/-- So does the second. -/
theorem mem_walkOccupied : a ∈ g.walkOccupied r ↔ ∃ c ∈ r, a ∈ g.cells.members c := by
  simp only [walkOccupied, List.mem_flatMap, List.mem_filter, decide_eq_true_eq, Prod.exists,
    Std.ExtTreeMap.mem_toList_iff_getElem?_eq_some]
  constructor
  · rintro ⟨c, m, ⟨hm, hc⟩, ha⟩
    refine ⟨c, hc, ?_⟩
    rw [Occupants.members, hm]
    exact ha
  · rintro ⟨c, hc, ha⟩
    rw [Occupants.members] at ha
    cases hm : g.cells[c]? with
    | none =>
      rw [hm] at ha
      exact absurd ha Members.not_mem_empty
    | some m =>
      rw [hm] at ha
      exact ⟨c, m, ⟨hm, hc⟩, ha⟩

omit [Scalar S] in
/-- Both walks find the handles in the cells of a region. -/
theorem mem_inRegion : a ∈ g.inRegion r ↔ ∃ c ∈ r, a ∈ g.cells.members c := by
  rw [inRegion, mem_inOrder]
  split
  case isTrue => exact mem_walkRegion
  case isFalse => exact mem_walkOccupied

/-- The objects in a region are those with a cell in it. -/
theorem Consistent.mem_inRegion_iff (h : g.Consistent) :
    a ∈ g.inRegion r ↔ ∃ r', g.region? a = some r' ∧ ∃ c ∈ r', c ∈ r := by
  have hmem (c : Cell) : a ∈ g.cells.members c ↔ ∃ r', g.region? a = some r' ∧ c ∈ r' := h.mem_ids
  rw [mem_inRegion]
  simp only [hmem]
  constructor
  · rintro ⟨c, hc, r', hr', hc'⟩
    exact ⟨r', hr', c, hc', hc⟩
  · rintro ⟨r', hr', c, hc', hc⟩
    exact ⟨c, hc, r', hr', hc'⟩

omit [Scalar S] in
theorem ascending_inRegion : Ascending (g.inRegion r) := ascending_inOrder _

/-! ## Neighbors -/

omit [Scalar S] in
theorem neighbors_eq (h : g.region? id = some r) (radius : UInt32) :
    g.neighbors id radius = .ok ((g.inRegion (r.dilate radius)).filter (· ≠ id)) := by
  rw [neighbors, h]
  rfl

theorem Consistent.ordered_of_region? (h : g.Consistent) (hr : g.region? id = some r) :
    r.Ordered := by
  obtain ⟨o, ho, rfl⟩ := region?_eq_some_iff.1 hr
  exact h.region_ordered id o ho

/-- The objects in a dilated region are those near the region. -/
theorem Consistent.mem_inRegion_dilate (h : g.Consistent) (hr : g.region? id = some r)
    (margin : UInt32) :
    a ∈ g.inRegion (r.dilate margin) ↔ g.Near (Region.growth margin) id a := by
  have hnear {r' : Region} : r.Near (Region.growth margin) r' ↔ ∃ c ∈ r', c ∈ r.dilate margin :=
    Region.near_growth_iff (h.ordered_of_region? hr)
  rw [h.mem_inRegion_iff]
  constructor
  · rintro ⟨r', hr', hcells⟩
    exact ⟨r, r', hr, hr', hnear.2 hcells⟩
  · rintro ⟨r₀, r', hr₀, hr', hrr'⟩
    obtain rfl := Option.some.inj (hr₀.symm.trans hr)
    exact ⟨r', hr', hnear.1 hrr'⟩

omit [Scalar S] in
theorem exists_region?_of_mem (h : id ∈ g) : ∃ r, g.region? id = some r := by
  obtain ⟨o, ho⟩ := Option.isSome_iff_exists.1 (Std.ExtTreeMap.mem_iff_isSome_getElem?.1 h)
  exact ⟨o.region, region?_eq_some_iff.2 ⟨o, ho, rfl⟩⟩

/-- In every state that a new grid is brought to, the neighbors of an object are the other objects
    with a cell so near to one of its own, in order, for every radius. A radius above the greatest
    coordinate counts as that coordinate. -/
theorem neighbors_run {cellSize : S} (hg : new cellSize = .ok g) (actions : List (Action ι S))
    (hid : id ∈ g.run actions) (radius : UInt32) :
    ∃ found, (g.run actions).neighbors id radius = .ok found ∧ Ascending found ∧
      ∀ a, a ∈ found ↔ a ≠ id ∧ (g.run actions).Near (Region.growth radius) id a := by
  have h : (g.run actions).Consistent := (consistent_of_new hg).run actions
  obtain ⟨r, hr⟩ := exists_region?_of_mem hid
  refine ⟨_, neighbors_eq hr radius, ascending_inRegion.filter _, fun a => ?_⟩
  rw [List.mem_filter, decide_eq_true_iff, h.mem_inRegion_dilate hr, and_comm]

/-- A large object, and a point that is only just near enough. -/
theorem neighbors_run_large :
    let g : Grid UInt32 ℚ := (empty 10).run [
      .insert 1 { position := ⟨0, 0⟩, extent := .disk 15 },
      .insert 2 { position := ⟨45, -45⟩, extent := .point },
      .insert 3 { position := ⟨0, 0⟩, extent := .box 4 60 },
      .relocate 3 { position := ⟨55, 0⟩, extent := .box 4 60 }]
    new (10 : ℚ) = .ok (empty 10 : Grid UInt32 ℚ) ∧ 1 ∈ g ∧
      ∃ found, g.neighbors 1 3 = .ok found ∧ Ascending found ∧
        ∀ a, a ∈ found ↔ a ≠ 1 ∧ g.Near (Region.growth 3) 1 a := by
  have h : new (10 : ℚ) = .ok (empty 10 : Grid UInt32 ℚ) := new_exact (by norm_num)
  have hid : 1 ∈ (empty 10 : Grid UInt32 ℚ).run [
      .insert 1 { position := ⟨0, 0⟩, extent := .disk 15 },
      .insert 2 { position := ⟨45, -45⟩, extent := .point },
      .insert 3 { position := ⟨0, 0⟩, extent := .box 4 60 },
      .relocate 3 { position := ⟨55, 0⟩, extent := .box 4 60 }] := by decide +kernel
  exact ⟨h, hid, neighbors_run h _ hid 3⟩

/-- A point in the first column and one in the column of the origin are `2 ^ 31` cells apart. With
    this radius, the first one has no neighbor. -/
theorem neighbors_wide :
    let g : Grid UInt32 ℚ := (empty 1).run [
      .insert 1 { position := ⟨-2147483648, 0⟩, extent := .point },
      .insert 2 { position := ⟨0, 0⟩, extent := .point }]
    new (1 : ℚ) = .ok (empty 1 : Grid UInt32 ℚ) ∧ 1 ∈ g ∧
      g.Near (2147483648 : UInt32).toNat 1 2 ∧ g.neighbors 1 2147483648 = .ok [] := by
  have hnear : Region.Near 2147483648 (.single ⟨-2147483648, 0⟩) (.single ⟨0, 0⟩) :=
    ⟨⟨-2147483648, 0⟩, by decide, ⟨0, 0⟩, by decide, by decide⟩
  exact ⟨new_exact one_pos, by decide +kernel,
    ⟨_, _, by decide +kernel, by decide +kernel, hnear⟩, by decide +kernel⟩

end Broadphase.Grid
