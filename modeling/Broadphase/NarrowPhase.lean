import Broadphase.Pair
import Broadphase.Shape

/-!
# Narrow phases

The grid proposes pairs of objects that are close to each other, and a *narrow
phase* decides which of them interact. With the decision it gives its *reach*:
the largest gap between the bounding boxes of two objects that it may still
confirm. Proposals come from adjacent cells only, so the reach must not exceed
the cell size.

The shapes it looks at are those of the two handles of the pair, in order. The
narrow phases of this module ignore the handles:

* `radiusOverlap`: the objects overlap, both read as disks;
* `boundsOverlap`: their bounding boxes overlap;
* `shapeOverlap`: they overlap, as what they are;
* `withinRange`: they are at most so far apart.

All of them count touching as overlapping, and they compare squares of
distances, so that no root is taken.
-/

namespace Broadphase

/-- The exact test of a pair that the grid proposes. -/
structure NarrowPhase (ι S : Type) [Handle ι] where
  /-- Whether the objects of a pair interact. -/
  confirms : Pair ι → Shape S → Shape S → Bool
  /-- The largest gap between two bounding boxes that may be confirmed. -/
  reach : S

variable {ι S : Type} [Handle ι] [Scalar S]

namespace Bounds

/-- The gap between two intervals, and zero where they overlap. -/
def axisGap (lower upper lower' upper' : S) : S :=
  Scalar.larger (Scalar.larger (lower' - upper) (lower - upper')) 0

/-- The square of the distance between two boxes. -/
def gapSquared (a b : Bounds S) : S :=
  Scalar.square (axisGap a.lower.x a.upper.x b.lower.x b.upper.x) +
    Scalar.square (axisGap a.lower.y a.upper.y b.lower.y b.upper.y)

/-- Some point of the box is at most `radius` away from `centre`. -/
def ReachedBy (b : Bounds S) (centre : Point S) (radius : S) : Prop :=
  centre.distanceSquared (b.closestPoint centre) ≤ Scalar.square radius

instance (b : Bounds S) (centre : Point S) (radius : S) : Decidable (b.ReachedBy centre radius) :=
  inferInstanceAs (Decidable (_ ≤ _))

end Bounds

namespace Shape

/-- Two objects are at most `range` apart. -/
def Within (range : S) : Shape S → Shape S → Prop
  | ⟨p, .disk r, _⟩, ⟨p', .disk r', _⟩ => p.distanceSquared p' ≤ Scalar.square (r + r' + range)
  | a@⟨_, .box .., _⟩, b@⟨_, .box .., _⟩ => a.bounds.gapSquared b.bounds ≤ Scalar.square range
  | ⟨p, .disk r, _⟩, b@⟨_, .box .., _⟩ => b.bounds.ReachedBy p (r + range)
  | a@⟨_, .box .., _⟩, ⟨p, .disk r, _⟩ => a.bounds.ReachedBy p (r + range)

instance (range : S) : (a b : Shape S) → Decidable (Within range a b)
  | ⟨_, .disk _, _⟩, ⟨_, .disk _, _⟩ => inferInstanceAs (Decidable (_ ≤ _))
  | ⟨_, .box .., _⟩, ⟨_, .box .., _⟩ => inferInstanceAs (Decidable (_ ≤ _))
  | ⟨_, .disk _, _⟩, ⟨_, .box .., _⟩ => inferInstanceAs (Decidable (Bounds.ReachedBy _ _ _))
  | ⟨_, .box .., _⟩, ⟨_, .disk _, _⟩ => inferInstanceAs (Decidable (Bounds.ReachedBy _ _ _))

end Shape

namespace NarrowPhase

/-- A test of one's own, which may only confirm pairs with overlapping bounding boxes. -/
def ofPredicate (confirms : Pair ι → Shape S → Shape S → Bool) : NarrowPhase ι S := ⟨confirms, 0⟩

/-- The objects overlap, both read as disks. -/
def radiusOverlap : NarrowPhase ι S := ofPredicate fun _ a b =>
  a.position.distanceSquared b.position ≤ Scalar.square (a.extent.radius + b.extent.radius)

/-- The bounding boxes of the objects overlap. -/
def boundsOverlap : NarrowPhase ι S := ofPredicate fun _ a b => a.bounds.Intersects b.bounds

/-- The objects are at most `range` apart. -/
def withinRange (range : S) : NarrowPhase ι S := ⟨fun _ a b => Shape.Within range a b, range⟩

/-- The objects overlap. -/
def shapeOverlap : NarrowPhase ι S := withinRange 0

end NarrowPhase

end Broadphase
