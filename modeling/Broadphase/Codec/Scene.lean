import Broadphase.Codec
import Broadphase.Region
import Broadphase.Settings
import Broadphase.Shape

/-!
# Codecs of a scene

The binary form of everything that a scene and its tracker are described by.
Parts are written in the order in which they are listed here, without padding;
scalars are written by a codec of their own, at their precision.

* groups: one word;
* a point: its `x`, its `y`;
* an extent: of kind `0`, the radius of a disk, or of kind `1`, half the width
  and half the height of a box;
* a shape: its position, its extent, its groups;
* a box: its lower corner, its upper corner;
* a cell: its row, its column;
* a region: its lower corner, its upper corner;
* settings: the cell size, and the two capacities as optional words.
-/

namespace Broadphase.Codec

variable {S : Type}

/-- Groups. -/
def groups : Codec Groups := word32.map .mk Groups.bits

/-- Points. -/
def point (scalar : Codec S) : Codec (Point S) :=
  (scalar.pair scalar).map (fun (x, y) => ⟨x, y⟩) fun p => (p.x, p.y)

/-- Extents. -/
def extent (scalar : Codec S) : Codec (Extent S) :=
  (scalar.either (scalar.pair scalar)).map
    (fun
      | .inl radius => .disk radius
      | .inr (halfWidth, halfHeight) => .box halfWidth halfHeight)
    fun
      | .disk radius => .inl radius
      | .box halfWidth halfHeight => .inr (halfWidth, halfHeight)

/-- Shapes. -/
def shape (scalar : Codec S) : Codec (Shape S) :=
  ((point scalar).pair ((extent scalar).pair groups)).map
    (fun (position, extent, groups) => ⟨position, extent, groups⟩)
    fun s => (s.position, s.extent, s.groups)

/-- Bounding boxes. -/
def bounds (scalar : Codec S) : Codec (Bounds S) :=
  ((point scalar).pair (point scalar)).map
    (fun (lower, upper) => ⟨lower, upper⟩) fun b => (b.lower, b.upper)

/-- Cells, the row first. -/
def cell : Codec Cell :=
  (int32.pair int32).map (fun (row, col) => ⟨col, row⟩) fun c => (c.row, c.col)

/-- Regions. -/
def region : Codec Region :=
  (cell.pair cell).map (fun (lower, upper) => ⟨lower, upper⟩) fun r => (r.lower, r.upper)

/-- Settings. -/
def settings (scalar : Codec S) : Codec (Settings S) :=
  (scalar.pair (word64.option.pair word64.option)).map
    (fun (cellSize, objects, pairs) => ⟨cellSize, objects, pairs⟩)
    fun c => (c.cellSize, c.objectCapacity, c.pairCapacity)

end Broadphase.Codec
