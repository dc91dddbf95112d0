import Broadphase.Proofs.Grid.Query
import Broadphase.Proofs.Grid.Refresh

/-!
# Grids that cannot be told apart

Two grids are alike if they answer every question in the same way (`Alike`). What
a consistent grid answers depends only on the size of its cells and the shapes of
its objects, and not on how it came to hold them (`Holds.alike`): the objects and
their regions follow from the shapes, and the cells from the objects.
-/

namespace Broadphase.Grid

variable {ι S : Type} [Handle ι] [Scalar S] {g g' : Grid ι S} {cellSize : S}
  {shapes : ι → Option (Shape S)} {id : ι} {c : Cell}

/-- Two grids answer every question in the same way. -/
structure Alike (g g' : Grid ι S) : Prop where
  /-- They have as many objects. -/
  size_eq : g.size = g'.size
  /-- They have the same objects. -/
  mem_iff : ∀ id, id ∈ g ↔ id ∈ g'
  /-- They list the same handles. -/
  handles_eq : g.handles = g'.handles
  /-- Objects have the same shapes. -/
  shape?_eq : ∀ id, g.shape? id = g'.shape? id
  /-- Objects occupy the same cells. -/
  region?_eq : ∀ id, g.region? id = g'.region? id
  /-- The same shapes can be placed, in the same cells. -/
  regionFor?_eq : ∀ shape, g.regionFor? shape = g'.regionFor? shape
  /-- Cells have the same handles. -/
  cell?_eq : ∀ c, g.cell? c = g'.cell? c
  /-- The same cells are occupied. -/
  occupiedCells_eq : g.occupiedCells = g'.occupiedCells
  /-- As many cells are occupied. -/
  occupiedCount_eq : g.occupiedCount = g'.occupiedCount
  /-- The same objects are in a region. -/
  inRegion_eq : ∀ r, g.inRegion r = g'.inRegion r
  /-- The same objects are near a box. -/
  inBounds?_eq : ∀ b, g.inBounds? b = g'.inBounds? b
  /-- Objects have the same neighbors, or are unknown to both. -/
  neighbors_eq : ∀ id radius, g.neighbors id radius = g'.neighbors id radius

/-! ## Objects -/

/-- What a consistent grid knows of an object follows from its shape. -/
theorem Consistent.getElem?_objects (h : g.Consistent) : g.objects[id]? =
    (g.shape? id).bind fun shape => (shape.region? g.cellSize).map (⟨shape, ·⟩) := by
  rw [shape?]
  cases ho : g.objects[id]? with
  | none => rfl
  | some o =>
    have hregion : o.shape.region? g.cellSize = some o.region := h.region_eq id o ho
    rw [Option.map_some, Option.bind_some, hregion, Option.map_some]

/-- The shapes determine the objects. -/
theorem Holds.objects_eq (h : g.Holds cellSize shapes) (h' : g'.Holds cellSize shapes) :
    g.objects = g'.objects := by
  refine Std.ExtTreeMap.ext_getElem? fun id => ?_
  rw [h.consistent.getElem?_objects, h'.consistent.getElem?_objects, h.shape?_eq, h'.shape?_eq,
    h.cellSize_eq, h'.cellSize_eq]

/-! ## Cells -/

/-- A cell is occupied if some object is in it. -/
theorem Consistent.mem_cells_iff (h : g.Consistent) :
    c ∈ g.cells ↔ ∃ id, id ∈ g.cells.members c := by
  constructor
  · intro hc
    exact List.exists_mem_of_ne_nil _ (h.members_ne_nil c hc)
  · rintro ⟨id, hid⟩
    by_contra hc
    rw [Occupants.members, Std.ExtTreeMap.getElem?_eq_none hc] at hid
    exact Members.not_mem_empty hid

/-- The handles in a cell follow from the objects. -/
theorem Consistent.mem_members_congr (h : g.Consistent) (h' : g'.Consistent)
    (heq : g.objects = g'.objects) : id ∈ g.cells.members c ↔ id ∈ g'.cells.members c := by
  rw [h.mem_members, h'.mem_members, heq]

theorem Consistent.mem_cells_congr (h : g.Consistent) (h' : g'.Consistent)
    (heq : g.objects = g'.objects) : c ∈ g.cells ↔ c ∈ g'.cells := by
  rw [h.mem_cells_iff, h'.mem_cells_iff]
  exact exists_congr fun _ => h.mem_members_congr h' heq

/-- The objects determine which cells are occupied. -/
theorem Consistent.occupiedCells_congr (h : g.Consistent) (h' : g'.Consistent)
    (heq : g.objects = g'.objects) : g.occupiedCells = g'.occupiedCells :=
  Ascending.ext Std.ExtTreeMap.ordered_keys Std.ExtTreeMap.ordered_keys fun _ =>
    Std.ExtTreeMap.mem_keys.trans ((h.mem_cells_congr h' heq).trans Std.ExtTreeMap.mem_keys.symm)

omit [Scalar S] in
theorem cell?_eq_ite :
    g.cell? c = if c ∈ g.cells then some (g.cells.members c).toList else none := by
  rw [cell?, Occupants.members]
  split
  case isTrue hc =>
    obtain ⟨m, hm⟩ := Option.isSome_iff_exists.1 (Std.ExtTreeMap.mem_iff_isSome_getElem?.1 hc)
    rw [hm]
    rfl
  case isFalse hc =>
    rw [Std.ExtTreeMap.getElem?_eq_none hc]
    rfl

/-- They determine the handles in a cell, when these are put in order. -/
theorem Consistent.cell?_congr (h : g.Consistent) (h' : g'.Consistent)
    (heq : g.objects = g'.objects) (c : Cell) : g.cell? c = g'.cell? c := by
  have hlist : (g.cells.members c).toList = (g'.cells.members c).toList :=
    Ascending.ext (ascending_sort (h.nodup_members c)) (ascending_sort (h'.nodup_members c))
      fun _ => mem_sort.trans ((h.mem_members_congr h' heq).trans mem_sort.symm)
  rw [cell?_eq_ite, cell?_eq_ite, hlist]
  exact if_congr (h.mem_cells_congr h' heq) rfl rfl

/-- They determine the handles in a region. -/
theorem Consistent.inRegion_congr (h : g.Consistent) (h' : g'.Consistent)
    (heq : g.objects = g'.objects) (r : Region) : g.inRegion r = g'.inRegion r :=
  Ascending.ext ascending_inRegion ascending_inRegion fun id => by
    rw [mem_inRegion, mem_inRegion]
    exact exists_congr fun c => and_congr_right fun _ => h.mem_members_congr h' heq

/-! ## Answers -/

/-- Grids with cells of one size whose objects have the same shapes are alike. -/
theorem Holds.alike (h : g.Holds cellSize shapes) (h' : g'.Holds cellSize shapes) :
    g.Alike g' := by
  have heq := h.objects_eq h'
  have hcellSize : g.cellSize = g'.cellSize := h.cellSize_eq.trans h'.cellSize_eq.symm
  have hregion (id : ι) : g.region? id = g'.region? id := by rw [region?, region?, heq]
  have hcells := h.consistent.occupiedCells_congr h'.consistent heq
  have hinRegion := h.consistent.inRegion_congr h'.consistent heq
  exact {
    size_eq := by rw [size, size, heq]
    mem_iff := fun id => by rw [← isSome_shape?, ← isSome_shape?, h.shape?_eq, h'.shape?_eq]
    handles_eq := by rw [handles, handles, heq]
    shape?_eq := fun id => (h.shape?_eq id).trans (h'.shape?_eq id).symm
    region?_eq := hregion
    regionFor?_eq := fun shape => by rw [regionFor?, regionFor?, hcellSize]
    cell?_eq := h.consistent.cell?_congr h'.consistent heq
    occupiedCells_eq := hcells
    occupiedCount_eq := by
      rw [occupiedCount, occupiedCount, ← Std.ExtTreeMap.length_keys, ← Std.ExtTreeMap.length_keys]
      exact congrArg List.length hcells
    inRegion_eq := hinRegion
    inBounds?_eq := fun b => by rw [inBounds?, inBounds?, hcellSize, funext hinRegion]
    neighbors_eq := fun id radius => by
      simp only [neighbors, hregion, hinRegion] }

end Broadphase.Grid
