import Mathlib.Data.List.Destutter
import Broadphase.Proofs.Grid.Query

/-!
# Walks through a region

The handles in a region are collected by walking its cells, or by picking from the
occupied cells those in the region, in whatever order these are visited (`pick`).
What a walk has collected is then tidied up: it is put in order, and a handle that
repeats the one before it is dropped (`tidy`).

* `tidy_eq_inOrder`: among handles in order, those that are equal are next to each
  other, so this leaves each of them once;
* `tidy_walkRegion`, `tidy_pick`: both walks come to the same list, so it makes no
  difference which of them is taken;
* `inRegion_run`: this list holds the objects with a cell in the region.
-/

namespace Broadphase.Grid

variable {ι S : Type} [Handle ι] [Scalar S] {g : Grid ι S} {r : Region}

/-! ## Tidying up -/

/-- Some handles in order, without those that repeat the one before them. -/
def tidy (found : List ι) : List ι := (sort found).destutter (· ≠ ·)

instance : Std.Antisymm fun a b : ι => (compare a b).isLE where
  antisymm _ _ hab hba := Std.LawfulEqOrd.eq_of_compare (Std.OrientedCmp.isLE_antisymm hab hba)

/-- Tidying up leaves each handle once. -/
theorem tidy_eq_inOrder (found : List ι) : tidy found = inOrder found := by
  have hsort : (sort found).Pairwise fun a b => (compare a b).isLE := pairwise_sort found
  have hascending : Ascending (sort found).dedup :=
    ascending_of_pairwise (hsort.sublist (List.dedup_sublist _)) (List.nodup_dedup _)
  rw [tidy, hsort.destutter_eq_dedup]
  refine hascending.ext (ascending_inOrder found) fun a => ?_
  rw [List.mem_dedup, mem_sort, mem_inOrder]

/-! ## Walks -/

/-- The handles in the cells of a region, picked from occupied cells that are visited in some
    order. -/
def pick (order : List (Cell × Members ι)) (r : Region) : List ι :=
  (order.filter fun (c, _) => c ∈ r).flatMap fun (_, members) => members.ids

omit [Handle ι] in
theorem mem_pick {order order' : List (Cell × Members ι)} (h : order.Perm order') {a : ι} :
    a ∈ pick order r ↔ a ∈ pick order' r :=
  ((h.filter _).flatMap_right _).mem_iff

omit [Scalar S] in
/-- The walk through the cells of the region, tidied up. -/
theorem tidy_walkRegion : tidy (g.walkRegion r) = g.inRegion r := by
  rw [tidy_eq_inOrder]
  refine (ascending_inOrder _).ext ascending_inRegion fun a => ?_
  rw [mem_inOrder, mem_walkRegion, mem_inRegion]

omit [Scalar S] in
/-- The walk through the occupied cells, in any order, tidied up. -/
theorem tidy_pick {order : List (Cell × Members ι)} (h : order.Perm g.cells.toList) :
    tidy (pick order r) = g.inRegion r := by
  rw [tidy_eq_inOrder]
  refine (ascending_inOrder _).ext ascending_inRegion fun a => ?_
  rw [mem_inOrder, mem_pick h, mem_inRegion]
  exact mem_walkOccupied

/-! ## Objects -/

/-- In every state that a new grid is brought to, the objects in a region are those with a cell in
    it, in order, also if the region has its corners the wrong way around or is the whole grid. Both
    walks come to this list, in whatever order the occupied cells are visited. -/
theorem inRegion_run {cellSize : S} (hg : new cellSize = .ok g) (actions : List (Action ι S))
    (r : Region) :
    Ascending ((g.run actions).inRegion r) ∧
      (∀ a, a ∈ (g.run actions).inRegion r ↔
        ∃ r', (g.run actions).region? a = some r' ∧ ∃ c ∈ r', c ∈ r) ∧
      tidy ((g.run actions).walkRegion r) = (g.run actions).inRegion r ∧
      ∀ order, order.Perm (g.run actions).cells.toList →
        tidy (pick order r) = (g.run actions).inRegion r := by
  have h : (g.run actions).Consistent := (consistent_of_new hg).run actions
  exact ⟨ascending_inRegion, fun _ => h.mem_inRegion_iff, tidy_walkRegion, fun _ => tidy_pick⟩

/-- The whole grid, which has more cells than a word can count, and a region with its columns the
    wrong way around, which has none. One object is in many cells, and one has been moved. -/
theorem inRegion_run_whole :
    let g : Grid UInt32 ℚ := (empty 10).run [
      .insert 1 { position := ⟨0, 0⟩, extent := .disk 15 },
      .insert 2 { position := ⟨5, 5⟩, extent := .box 20 10 },
      .relocate 1 { position := ⟨95, 5⟩, extent := .point }]
    let whole : Region := ⟨⟨-2147483648, -2147483648⟩, ⟨2147483647, 2147483647⟩⟩
    let backwards : Region := ⟨⟨1, 0⟩, ⟨0, 5⟩⟩
    new (10 : ℚ) = .ok (empty 10 : Grid UInt32 ℚ) ∧ g.inRegion whole = [1, 2] ∧
      (∀ a, a ∈ g.inRegion whole ↔ ∃ r', g.region? a = some r' ∧ ∃ c ∈ r', c ∈ whole) ∧
      g.inRegion backwards = [] ∧ tidy (g.walkRegion backwards) = g.inRegion backwards ∧
      ∀ order, order.Perm g.cells.toList → tidy (pick order backwards) = g.inRegion backwards := by
  have h : new (10 : ℚ) = .ok (empty 10 : Grid UInt32 ℚ) := new_exact (by norm_num)
  obtain ⟨-, hwhole, -⟩ := inRegion_run h [
      .insert 1 { position := ⟨0, 0⟩, extent := .disk 15 },
      .insert 2 { position := ⟨5, 5⟩, extent := .box 20 10 },
      .relocate 1 { position := ⟨95, 5⟩, extent := .point }]
    ⟨⟨-2147483648, -2147483648⟩, ⟨2147483647, 2147483647⟩⟩
  obtain ⟨-, -, hwalk, hpick⟩ := inRegion_run h [
      .insert 1 { position := ⟨0, 0⟩, extent := .disk 15 },
      .insert 2 { position := ⟨5, 5⟩, extent := .box 20 10 },
      .relocate 1 { position := ⟨95, 5⟩, extent := .point }] ⟨⟨1, 0⟩, ⟨0, 5⟩⟩
  exact ⟨h, by decide +kernel, hwhole, by decide +kernel, hwalk, hpick⟩

end Broadphase.Grid
