import Broadphase.Proofs.Scalar.Exact
import Broadphase.Grid.Action
import Broadphase.Proofs.Grid.Occupants
import Broadphase.Proofs.Maps
import Broadphase.Proofs.Region.Cells
import Broadphase.Proofs.Success
import Mathlib.Data.Rat.Floor

/-!
# Consistent grids

Whatever is asked of a grid, in whatever order and with or without success, its
cells and objects stay inverse to each other (`consistent_run`).

* `insert_eq_ok_iff`, `remove_eq_ok_iff`, `relocate_eq_ok_iff`: when the actions
  succeed, and all that they change;
* `Consistent.insert`, `Consistent.remove`, `Consistent.relocate`: each keeps the
  grid consistent. Relocating leaves the old cells that are not new, and then
  enters the new ones that are not old, so that no cell is entered twice.
-/

namespace Broadphase

theorem Shape.region?_eq_some_iff {S : Type} [Scalar S] {cellSize : S} {shape : Shape S}
    {r : Region} : shape.region? cellSize = some r ↔
      shape.isValid ∧ Region.covering? cellSize shape.bounds = some r := by
  rw [Shape.region?, Option.ite_none_right_eq_some]

namespace Grid

variable {ι S : Type} [Handle ι] [Scalar S] {g g' : Grid ι S} {id a : ι} {shape : Shape S}

/-! ## Results -/

/-- A shape is placed in a region with its corners the right way around. -/
theorem ordered_of_regionFor? {r : Region} (h : g.regionFor? shape = some r) : r.Ordered := by
  obtain ⟨-, hcovering⟩ := Shape.region?_eq_some_iff.1 h
  exact (Region.covering?_eq_some_iff.1 hcovering).2.2

theorem checkCellSize_eq_ok_iff {cellSize : S} :
    checkCellSize cellSize = .ok () ↔ Scalar.isFinite cellSize ∧ 0 < cellSize := by
  rw [checkCellSize]
  split
  case isTrue h => exact iff_of_true rfl h
  case isFalse h => exact iff_of_false throw_ne_ok h

/-- A new grid needs a cell size that is a number above zero. -/
theorem new_eq_ok_iff {cellSize : S} : new cellSize = .ok g ↔
    (Scalar.isFinite cellSize ∧ 0 < cellSize) ∧ g = empty cellSize := by
  rw [new, map_eq_ok_iff, ← checkCellSize_eq_ok_iff]
  exact ⟨fun ⟨_, h, hg⟩ => ⟨h, hg.symm⟩, fun ⟨h, hg⟩ => ⟨(), h, hg.symm⟩⟩

/-- An object is inserted if it is not there and its shape can be placed. It enters each of its
    cells, and is stored. -/
theorem insert_eq_ok_iff : g.insert id shape = .ok g' ↔
    id ∉ g ∧ ∃ r, g.regionFor? shape = some r ∧ g' = { g with
      cells := r.cells.foldl (.enter id) g.cells
      objects := g.objects.insert id ⟨shape, r⟩ } := by
  rw [insert]
  by_cases hid : id ∈ g
  · simp [hid]
  · cases hr : g.regionFor? shape with
    | none => simp [hid]
    | some r => simp [hid, eq_comm]

omit [Scalar S] in
/-- An object is removed if it is there. It leaves each of its cells. -/
theorem remove_eq_ok_iff {last : Shape S} : g.remove id = .ok (last, g') ↔
    ∃ o, g.objects[id]? = some o ∧ last = o.shape ∧ g' = { g with
      cells := o.region.cells.foldl (.leave id) g.cells
      objects := g.objects.erase id } := by
  rw [remove]
  cases ho : g.objects[id]? with
  | none => simp
  | some o => simp [eq_comm]

/-- An object is relocated if it is there and its new shape can be placed. It leaves the old cells
    that are not new, enters the new ones that are not old, and is stored with its new shape. -/
theorem relocate_eq_ok_iff {changed : Bool} : g.relocate id shape = .ok (changed, g') ↔
    ∃ o r, g.objects[id]? = some o ∧ g.regionFor? shape = some r ∧
      changed = decide (o.region ≠ r) ∧ g' = { g with
        cells := (r.cells.filter (· ∉ o.region)).foldl (.enter id)
          ((o.region.cells.filter (· ∉ r)).foldl (.leave id) g.cells)
        objects := g.objects.insert id ⟨shape, r⟩ } := by
  rw [relocate]
  cases ho : g.objects[id]? with
  | none => simp
  | some o =>
    cases hr : g.regionFor? shape with
    | none => simp
    | some r => simp [eq_comm]

/-! ## Objects -/

section Objects

variable {objects : Std.ExtTreeMap ι (Occupancy S)} {o : Occupancy S} {c : Cell}

/-- An object occupies a cell. -/
def Occupies (objects : Std.ExtTreeMap ι (Occupancy S)) (a : ι) (c : Cell) : Prop :=
  ∃ o, objects[a]? = some o ∧ c ∈ o.region

omit [Scalar S] in
theorem occupies_iff (h : objects[a]? = some o) : Occupies objects a c ↔ c ∈ o.region := by
  simp only [Occupies, h, Option.some.injEq, exists_eq_left']

omit [Scalar S] in
theorem not_occupies (h : a ∉ objects) : ¬ Occupies objects a c := fun ⟨_, ho, _⟩ =>
  absurd ((Std.ExtTreeMap.getElem?_eq_none h).symm.trans ho) nofun

omit [Scalar S] in
/-- An object that is inserted occupies its region, and the others what they did. -/
theorem occupies_insert : Occupies (objects.insert id o) a c ↔
    a = id ∧ c ∈ o.region ∨ a ≠ id ∧ Occupies objects a c := by
  rw [Occupies, getElem?_insert_ite]
  by_cases ha : a = id
  · simp only [ha, if_true, Option.some.injEq, exists_eq_left', true_and, ne_eq, not_true_eq_false,
      false_and, or_false]
  · simp only [ha, if_false, false_and, false_or, ne_eq, not_false_eq_true, true_and, Occupies]

omit [Scalar S] in
/-- An object that is erased occupies nothing, and the others what they did. -/
theorem occupies_erase : Occupies (objects.erase id) a c ↔ a ≠ id ∧ Occupies objects a c := by
  rw [Occupies, getElem?_erase_ite]
  by_cases ha : a = id
  · simp only [ha, if_true, reduceCtorEq, false_and, exists_false, ne_eq, not_true_eq_false]
  · simp only [ha, if_false, ne_eq, not_false_eq_true, true_and, Occupies]

/-- The stored regions are those for the stored shapes. -/
def Fits (g : Grid ι S) (objects : Std.ExtTreeMap ι (Occupancy S)) : Prop :=
  ∀ (a : ι) o, objects[a]? = some o → g.regionFor? o.shape = some o.region

theorem Fits.insert (h : g.Fits objects) (ho : g.regionFor? o.shape = some o.region) :
    g.Fits (objects.insert id o) := by
  intro a o' ho'
  rw [getElem?_insert_ite] at ho'
  split at ho'
  · exact Option.some.inj ho' ▸ ho
  · exact h a o' ho'

theorem Fits.erase (h : g.Fits objects) : g.Fits (objects.erase id) := by
  intro a o ho
  rw [getElem?_erase_ite] at ho
  split at ho
  · exact absurd ho nofun
  · exact h a o ho

end Objects

/-! ## Invariance -/

/-- A grid is consistent if its cells list the objects that occupy them. -/
theorem consistent_of_lists (hcells : g.cells.Lists (Occupies g.objects))
    (hfits : g.Fits g.objects) : g.Consistent where
  mem_members := hcells.mem_members
  nodup_members := hcells.nodup_members
  members_ne_nil := hcells.kept
  region_eq := hfits
  region_ordered a o ho := ordered_of_regionFor? (hfits a o ho)

theorem Consistent.lists (h : g.Consistent) : g.cells.Lists (Occupies g.objects) :=
  ⟨h.mem_members, h.nodup_members, h.members_ne_nil⟩

theorem consistent_empty (cellSize : S) : (empty cellSize : Grid ι S).Consistent := by
  refine consistent_of_lists (Occupants.lists_empty.congr fun a c => ?_) fun a o ho => ?_
  · exact iff_of_false id (not_occupies Std.ExtTreeMap.not_mem_empty)
  · exact absurd (Std.ExtTreeMap.getElem?_empty.symm.trans ho) nofun

/-- Inserting an object keeps the grid consistent: it enters cells in which it was not listed
    before. -/
theorem Consistent.insert (h : g.Consistent) (hg : g.insert id shape = .ok g') :
    g'.Consistent := by
  obtain ⟨hid, r, hr, rfl⟩ := insert_eq_ok_iff.1 hg
  have hcells := h.lists.enter r.nodup_cells fun c _ => not_occupies hid
  refine consistent_of_lists (hcells.congr fun a c => ?_) (Fits.insert h.region_eq hr)
  rw [occupies_insert, Region.mem_cells]
  by_cases ha : a = id
  · subst ha
    simp only [not_occupies hid, true_and, false_or, and_false, or_false]
  · simp only [ha, false_and, or_false, ne_eq, not_false_eq_true, true_and, false_or]

/-- Removing an object keeps the grid consistent: it leaves all the cells in which it was listed. -/
theorem Consistent.remove {last : Shape S} (h : g.Consistent)
    (hg : g.remove id = .ok (last, g')) : g'.Consistent := by
  obtain ⟨o, ho, -, rfl⟩ := remove_eq_ok_iff.1 hg
  have hcells := h.lists.leave o.region.nodup_cells id
  refine consistent_of_lists (hcells.congr fun a c => ?_) (Fits.erase h.region_eq)
  rw [occupies_erase, Region.mem_cells]
  by_cases ha : a = id
  · subst ha
    simp only [occupies_iff ho, true_and, and_not_self, ne_eq, not_true_eq_false, false_and]
  · simp only [ha, false_and, not_false_eq_true, and_true, ne_eq, true_and]

/-- Relocating an object keeps the grid consistent: the cells that it leaves and those that it
    enters are different ones, and it stays listed in the others. -/
theorem Consistent.relocate {changed : Bool} (h : g.Consistent)
    (hg : g.relocate id shape = .ok (changed, g')) : g'.Consistent := by
  obtain ⟨o, r, ho, hr, -, rfl⟩ := relocate_eq_ok_iff.1 hg
  have hleft := h.lists.leave (o.region.nodup_cells.filter (· ∉ r)) id
  have hnodup := r.nodup_cells.filter (· ∉ o.region)
  refine consistent_of_lists ((hleft.enter hnodup fun c hc => ?_).congr fun a c => ?_)
    (Fits.insert h.region_eq hr)
  · simp only [List.mem_filter, decide_eq_true_eq] at hc
    exact fun hid => hc.2 ((occupies_iff ho).1 hid.1)
  · simp only [occupies_insert, List.mem_filter, Region.mem_cells, decide_eq_true_eq]
    by_cases ha : a = id
    · -- What it occupied stays if it is in the new region, and the rest of that is new.
      subst ha
      simp only [occupies_iff ho]
      tauto
    · simp only [ha, false_and, or_false, not_false_eq_true, and_true, ne_eq, true_and, false_or]

/-- One action, whichever it is. -/
theorem Consistent.perform {action : Action ι S} {reply : Reply S} (h : g.Consistent)
    (hg : g.perform action = .ok (reply, g')) : g'.Consistent := by
  cases action with
  | insert id shape =>
    obtain ⟨g₁, hg₁, hr⟩ := map_eq_ok_iff.1 hg
    obtain ⟨-, rfl⟩ := Prod.mk.inj hr
    exact h.insert hg₁
  | remove id =>
    obtain ⟨⟨last, g₁⟩, hg₁, hr⟩ := map_eq_ok_iff.1 hg
    obtain ⟨-, rfl⟩ := Prod.mk.inj hr
    exact h.remove hg₁
  | relocate id shape =>
    obtain ⟨⟨changed, g₁⟩, hg₁, hr⟩ := map_eq_ok_iff.1 hg
    obtain ⟨-, rfl⟩ := Prod.mk.inj hr
    exact h.relocate hg₁
  | clear =>
    obtain ⟨-, rfl⟩ := Prod.mk.inj (Except.ok.inj hg)
    exact consistent_empty g.cellSize

/-- One action, whether it fails or not. -/
theorem Consistent.after (h : g.Consistent) (action : Action ι S) : (g.after action).Consistent := by
  rw [Grid.after]
  cases hg : g.perform action with
  | error => exact h
  | ok result => exact h.perform hg

/-- Any number of actions, in any order. -/
theorem Consistent.run (h : g.Consistent) (actions : List (Action ι S)) :
    (g.run actions).Consistent := by
  rw [Grid.run]
  induction actions generalizing g with
  | nil => exact h
  | cons action actions ih => exact ih (h.after action)

theorem new_exact {K : Type} [Field K] [LinearOrder K] [FloorRing K] {cellSize : K}
    (h : 0 < cellSize) : new cellSize = .ok (empty cellSize : Grid ι K) :=
  new_eq_ok_iff.2 ⟨⟨Scalar.isFinite_exact cellSize, h⟩, rfl⟩

theorem consistent_of_new {cellSize : S} (h : new cellSize = .ok g) : g.Consistent := by
  obtain ⟨-, rfl⟩ := new_eq_ok_iff.1 h
  exact consistent_empty cellSize

/-- In every state that a new grid is brought to, whatever is asked of it and whether it succeeds
    or not, cells and objects are inverse to each other. -/
theorem consistent_run {cellSize : S} (h : new cellSize = .ok g) (actions : List (Action ι S)) :
    (g.run actions).Consistent :=
  (consistent_of_new h).run actions

/-- Two large objects, the second of which is moved to cells of which it had some, and asked for
    again; the first one is removed, and so is one that was never there. -/
theorem consistent_run_overlapping :
    new (10 : ℚ) = .ok (empty 10 : Grid UInt32 ℚ) ∧ ((empty 10 : Grid UInt32 ℚ).run [
      .insert 1 { position := ⟨0, 0⟩, extent := .disk 15 },
      .insert 2 { position := ⟨5, 5⟩, extent := .box 20 10 },
      .relocate 2 { position := ⟨15, 5⟩, extent := .box 20 20 },
      .insert 2 { position := ⟨0, 0⟩, extent := .point },
      .remove 1,
      .remove 3]).Consistent := by
  have h : new (10 : ℚ) = .ok (empty 10 : Grid UInt32 ℚ) := new_exact (by norm_num)
  exact ⟨h, consistent_run h _⟩

end Grid

end Broadphase
