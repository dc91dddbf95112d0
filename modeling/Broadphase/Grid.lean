import Broadphase.Error
import Broadphase.Handle
import Broadphase.InOrder
import Broadphase.Region
import Broadphase.Settings
import Broadphase.Shape
import Std.Data.ExtTreeMap

/-!
# Grids

A grid knows which objects are where. Each object occupies the region of cells
that its bounding box overlaps, and the grid keeps both views of this:

* `objects`: for each handle, its shape and its region;
* `cells`: for each occupied cell, the handles of the objects in it.

The two are inverse to each other (`Grid.Consistent`). Objects are inserted,
relocated and removed by editing the cells one by one; relocating touches only
the cells that the object enters or leaves. An operation that fails changes
nothing.

A cell lists its handles in no particular order (`Members`): a handle enters at
the end, and when one leaves, the last takes its place. Nothing in this keeps a
handle from being listed twice; that it never is, is a part of consistency.
-/

namespace Broadphase

/-- What a grid knows of one object. -/
structure Occupancy (S : Type) where
  /-- The shape that it was last given. -/
  shape : Shape S
  /-- The cells that it occupies. -/
  region : Region
  deriving DecidableEq, Repr

/-- The handles that one cell lists. -/
structure Members (ι : Type) where
  /-- The handles, in the order that entering and leaving gave them. -/
  ids : List ι
  deriving DecidableEq, Repr

/-- The handles in each occupied cell. -/
abbrev Occupants (ι : Type) [Handle ι] := Std.ExtTreeMap Cell (Members ι)

/-- A uniform grid of square cells, and the objects in it. -/
structure Grid (ι S : Type) [Handle ι] where
  /-- The width and height of a cell. -/
  cellSize : S
  /-- The occupied cells, with the handles in each of them. -/
  cells : Occupants ι
  /-- The objects. -/
  objects : Std.ExtTreeMap ι (Occupancy S)

/-! ## Members -/

namespace Members

variable {ι : Type} [Handle ι]

/-- No handles. -/
def empty : Members ι := ⟨[]⟩

/-- A handle is listed. -/
instance : Membership ι (Members ι) where
  mem m id := id ∈ m.ids

/-- The handles in order. -/
def toList (m : Members ι) : List ι := sort m.ids

/-- A handle enters, at the end. -/
def enter (id : ι) (m : Members ι) : Members ι := ⟨m.ids ++ [id]⟩

/-- A handle leaves, if it is listed, and the last one takes its place. -/
def leave (id : ι) (m : Members ι) : Members ι :=
  match m.ids.idxOf? id with
  | none => m
  | some i => ⟨(m.ids.set i (m.ids.getLast?.getD id)).dropLast⟩

end Members

/-! ## Occupants -/

namespace Occupants

variable {ι : Type} [Handle ι]

/-- The handles in a cell. -/
def members (cells : Occupants ι) (c : Cell) : Members ι := cells[c]?.getD .empty

/-- A handle enters a cell. -/
def enter (id : ι) (cells : Occupants ι) (c : Cell) : Occupants ι :=
  cells.alter c fun present => some ((present.getD .empty).enter id)

/-- A handle leaves a cell; a cell that is left empty is dropped. -/
def leave (id : ι) (cells : Occupants ι) (c : Cell) : Occupants ι :=
  cells.alter c fun present => present.bind fun members =>
    let remaining := members.leave id
    if remaining.ids.isEmpty then none else some remaining

end Occupants

variable {ι S : Type} [Handle ι] [Scalar S]

/-- The cells of the given size that a shape occupies, unless it cannot be placed. -/
def Shape.region? (cellSize : S) (shape : Shape S) : Option Region :=
  if shape.isValid then Region.covering? cellSize shape.bounds else none

namespace Grid

/-- A grid with no objects. -/
def empty (cellSize : S) : Grid ι S := ⟨cellSize, ∅, ∅⟩

/-- A grid with no objects, if the cell size will do. -/
def new (cellSize : S) : Except (SettingsError S) (Grid ι S) :=
  (fun _ => empty cellSize) <$> checkCellSize cellSize

variable (g : Grid ι S)

/-! ## Lookups -/

/-- The number of objects. -/
def size : Nat := g.objects.size

/-- The number of occupied cells. -/
def occupiedCount : Nat := g.cells.size

/-- An object is in the grid. -/
instance : Membership ι (Grid ι S) where
  mem g id := id ∈ g.objects

instance (id : ι) : Decidable (id ∈ g) := inferInstanceAs (Decidable (id ∈ g.objects))

/-- The handles of all objects, in order. -/
def handles : List ι := g.objects.keys

/-- The shape of an object. -/
def shape? (id : ι) : Option (Shape S) := g.objects[id]?.map (·.shape)

/-- The cells that an object occupies. -/
def region? (id : ι) : Option Region := g.objects[id]?.map (·.region)

/-- The handles in a cell in order, if the cell is occupied. -/
def cell? (c : Cell) : Option (List ι) := g.cells[c]?.map (·.toList)

/-- The occupied cells, in order. -/
def occupiedCells : List Cell := g.cells.keys

/-- The cells that a shape would occupy, unless it cannot be placed. -/
def regionFor? (shape : Shape S) : Option Region := shape.region? g.cellSize

/-! ## Changes -/

/-- Remove every object. -/
def clear : Grid ι S := empty g.cellSize

/-- Add an object. -/
def insert (id : ι) (shape : Shape S) : Except (GridError ι) (Grid ι S) :=
  if id ∈ g then throw (.duplicateHandle id)
  else match g.regionFor? shape with
    | none => throw (.unplaceableShape id)
    | some region => return { g with
        cells := region.cells.foldl (.enter id) g.cells
        objects := g.objects.insert id ⟨shape, region⟩ }

/-- Remove an object, whose last shape is also returned. -/
def remove (id : ι) : Except (GridError ι) (Shape S × Grid ι S) :=
  match g.objects[id]? with
  | none => throw (.unknownHandle id)
  | some ⟨shape, region⟩ => return (shape, { g with
      cells := region.cells.foldl (.leave id) g.cells
      objects := g.objects.erase id })

/-- Give an object a new shape. Also returned is whether its cells have changed. -/
def relocate (id : ι) (shape : Shape S) : Except (GridError ι) (Bool × Grid ι S) :=
  match g.objects[id]? with
  | none => throw (.unknownHandle id)
  | some ⟨_, old⟩ => match g.regionFor? shape with
    | none => throw (.unplaceableShape id)
    | some new =>
      let left := (old.cells.filter (· ∉ new)).foldl (.leave id) g.cells
      return (old ≠ new, { g with
        cells := (new.cells.filter (· ∉ old)).foldl (.enter id) left
        objects := g.objects.insert id ⟨shape, new⟩ })

/-! ## Consistency -/

/-- Cells and objects are inverse to each other: a handle is listed in a cell exactly if the cell is
    in the region of the object, and then once; no cell is kept without a handle; and the region of
    an object is the one for its shape, with its corners the right way around. -/
structure Consistent : Prop where
  /-- Exactly the cells of its region list an object. -/
  mem_members : ∀ c id, id ∈ g.cells.members c ↔ ∃ o, g.objects[id]? = some o ∧ c ∈ o.region
  /-- No cell lists a handle twice. -/
  nodup_members : ∀ c, (g.cells.members c).ids.Nodup
  /-- No cell without handles is kept. -/
  members_ne_nil : ∀ c ∈ g.cells, (g.cells.members c).ids ≠ []
  /-- Each object occupies the cells for its shape. -/
  region_eq : ∀ (id : ι) o, g.objects[id]? = some o → g.regionFor? o.shape = some o.region
  /-- The corners of each region are the right way around. -/
  region_ordered : ∀ (id : ι) o, g.objects[id]? = some o → o.region.Ordered

end Grid

end Broadphase
