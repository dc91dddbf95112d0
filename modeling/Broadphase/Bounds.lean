import Broadphase.Scalar

/-!
# Bounding boxes

Points of the plane and axis-aligned boxes, closed on every side. A box is given
by two corners; nothing makes sure that the lower one is below the upper one.
-/

namespace Broadphase

/-- A point of the plane. -/
structure Point (S : Type) where
  /-- The coordinate along the columns of the grid. -/
  x : S
  /-- The coordinate along the rows of the grid. -/
  y : S
  deriving DecidableEq, Repr

/-- A closed axis-aligned box. -/
structure Bounds (S : Type) where
  /-- The corner with the least coordinates. -/
  lower : Point S
  /-- The corner with the greatest coordinates. -/
  upper : Point S
  deriving DecidableEq, Repr

variable {S : Type} [Scalar S]

namespace Point

/-- The square of the distance between two points. -/
def distanceSquared (p q : Point S) : S :=
  Scalar.square (q.x - p.x) + Scalar.square (q.y - p.y)

end Point

namespace Bounds

/-- Two boxes overlap, or touch. -/
def Intersects (a b : Bounds S) : Prop :=
  a.lower.x ≤ b.upper.x ∧ a.lower.y ≤ b.upper.y ∧ b.lower.x ≤ a.upper.x ∧ b.lower.y ≤ a.upper.y

instance (a b : Bounds S) : Decidable (a.Intersects b) :=
  inferInstanceAs (Decidable (_ ∧ _ ∧ _ ∧ _))

/-- A point is in a box, or on its border. -/
def Contains (b : Bounds S) (p : Point S) : Prop :=
  b.lower.x ≤ p.x ∧ b.lower.y ≤ p.y ∧ p.x ≤ b.upper.x ∧ p.y ≤ b.upper.y

instance (b : Bounds S) (p : Point S) : Decidable (b.Contains p) :=
  inferInstanceAs (Decidable (_ ∧ _ ∧ _ ∧ _))

/-- The box with every side moved outwards by `margin`. -/
def expand (b : Bounds S) (margin : S) : Bounds S where
  lower := ⟨b.lower.x - margin, b.lower.y - margin⟩
  upper := ⟨b.upper.x + margin, b.upper.y + margin⟩

/-- The point of a box that is nearest to `p`. -/
def closestPoint (b : Bounds S) (p : Point S) : Point S where
  x := Scalar.smaller (Scalar.larger p.x b.lower.x) b.upper.x
  y := Scalar.smaller (Scalar.larger p.y b.lower.y) b.upper.y

end Bounds

end Broadphase
