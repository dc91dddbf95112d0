import Broadphase.Bounds
import Broadphase.Groups

/-!
# Shapes

What is known of an object in one round: where it is, how far it extends around
its position, and which groups it belongs to. An object is a disk, a box, or a
point, which is a disk of radius zero.
-/

namespace Broadphase

/-- How far an object extends around its position. -/
inductive Extent (S : Type)
  /-- A disk of the given radius. -/
  | disk (radius : S)
  /-- A box, with half its width and half its height. -/
  | box (halfWidth halfHeight : S)
  deriving DecidableEq, Repr

/-- A participant of one round. -/
structure Shape (S : Type) where
  /-- The centre. -/
  position : Point S
  /-- How far the object extends around it. -/
  extent : Extent S
  /-- The groups that the object belongs to. -/
  groups : Groups := .all
  deriving DecidableEq, Repr

variable {S : Type} [Scalar S]

namespace Extent

/-- The extent of a point. -/
def point : Extent S := .disk 0

/-- Half the width and half the height of the enclosing box. -/
def halfSize : Extent S → Point S
  | .disk radius => ⟨radius, radius⟩
  | .box halfWidth halfHeight => ⟨halfWidth, halfHeight⟩

/-- The radius of the largest disk that fits: a box is read as its inscribed disk, which never
    leaves the box that the grid knows. -/
def radius : Extent S → S
  | .disk radius => radius
  | .box halfWidth halfHeight => Scalar.smaller halfWidth halfHeight

/-- Neither half is infinite, negative or something other than a number. -/
def isValid (e : Extent S) : Bool :=
  Scalar.isFinite e.halfSize.x && Scalar.isFinite e.halfSize.y &&
    decide (0 ≤ e.halfSize.x) && decide (0 ≤ e.halfSize.y)

end Extent

namespace Shape

/-- The position is finite and the extent valid. -/
def isValid (s : Shape S) : Bool :=
  Scalar.isFinite s.position.x && Scalar.isFinite s.position.y && s.extent.isValid

/-- The enclosing box. -/
def bounds (s : Shape S) : Bounds S :=
  let half := s.extent.halfSize
  { lower := ⟨s.position.x - half.x, s.position.y - half.y⟩
    upper := ⟨s.position.x + half.x, s.position.y + half.y⟩ }

end Shape

end Broadphase
