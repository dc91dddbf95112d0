import Broadphase.Grid
import Broadphase.InOrder

/-!
# Queries

Which objects are in a region of cells, near a box, or near another object.
Answers list handles in order, each once, however many cells an object shares
with the question.

The handles in a region can be collected by walking the cells of the region, or
by walking the occupied cells of the grid and picking those in the region. The
shorter of the two walks is taken.
-/

namespace Broadphase.Grid

variable {ι S : Type} [Handle ι] [Scalar S] (g : Grid ι S)

/-- The handles in the cells of a region, collected cell by cell. -/
def walkRegion (r : Region) : List ι := r.cells.flatMap fun c => (g.cells.members c).ids

/-- The handles in the cells of a region, picked from the occupied cells. -/
def walkOccupied (r : Region) : List ι :=
  (g.cells.toList.filter fun (c, _) => c ∈ r).flatMap fun (_, members) => members.ids

/-- The objects in a region. -/
def inRegion (r : Region) : List ι :=
  inOrder (if r.count.toNat ≤ g.occupiedCount then g.walkRegion r else g.walkOccupied r)

/-- The objects in the cells that a box overlaps, unless the box cannot be placed. -/
def inBounds? (b : Bounds S) : Option (List ι) :=
  (Region.covering? g.cellSize b).map g.inRegion

/-- The other objects with a cell at most `radius` columns and rows away from one of an object. -/
def neighbors (id : ι) (radius : UInt32) : Except (GridError ι) (List ι) :=
  match g.region? id with
  | none => throw (.unknownHandle id)
  | some region => return (g.inRegion (region.dilate radius)).filter (· ≠ id)

end Broadphase.Grid
