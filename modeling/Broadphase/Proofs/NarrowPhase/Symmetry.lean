import Broadphase.Proofs.NarrowPhase.Reach

/-!
# The two shapes of a narrow phase

Which of two shapes is looked at first depends on their handles, and on nothing
that can be seen of the objects. A narrow phase is *symmetric* if that makes no
difference to it, and the handles themselves do not either
(`NarrowPhase.Symmetric`).

This takes a few laws of arithmetic (`Scalar.Symmetric`). They are true of exact
scalars (`symmetric_exact`), and suffice for all narrow phases of the library
(`Provided.symmetric`).
-/

namespace Broadphase

/-- The operations that narrow phases apply to two values of which either may come first. -/
structure Scalar.Symmetric (S : Type) [Scalar S] : Prop where
  add_comm (x y : S) : x + y = y + x
  larger_comm (x y : S) : larger x y = larger y x
  square_sub_comm (x y : S) : square (x - y) = square (y - x)

theorem Scalar.symmetric_exact {K : Type} [Field K] [LinearOrder K] [FloorRing K] :
    Symmetric K where
  add_comm := add_comm
  larger_comm x y := by rw [larger_exact, larger_exact, max_comm]
  square_sub_comm x y := by rw [square_exact, square_exact, ← neg_sub y x, neg_mul_neg]

variable {ι S : Type} [Handle ι] [Scalar S]

/-- It makes no difference which of two shapes comes first, or whose shapes they are. -/
def NarrowPhase.Symmetric (phase : NarrowPhase ι S) : Prop :=
  ∀ p q a b, phase.confirms p a b = phase.confirms q b a

section Shapes

variable (hS : Scalar.Symmetric S)
include hS

theorem Point.distanceSquared_comm (p q : Point S) : p.distanceSquared q = q.distanceSquared p := by
  rw [distanceSquared, hS.square_sub_comm q.x, hS.square_sub_comm q.y, distanceSquared]

theorem Bounds.gapSquared_comm (a b : Bounds S) : a.gapSquared b = b.gapSquared a := by
  have haxis (lower upper lower' upper' : S) :
      axisGap lower upper lower' upper' = axisGap lower' upper' lower upper := by
    rw [axisGap, hS.larger_comm (lower' - upper), axisGap]
  rw [gapSquared, haxis, haxis a.lower.y, gapSquared]

/-- It does not matter which of the shapes comes first. -/
theorem Shape.within_comm {range : S} {a b : Shape S} : Within range a b ↔ Within range b a := by
  obtain ⟨p, extent, groups⟩ := a
  obtain ⟨p', extent', groups'⟩ := b
  cases extent with
  | disk r => cases extent' with
    | disk r' =>
      rw [Within, Within, Point.distanceSquared_comm hS, hS.add_comm r]
    | box => exact Iff.rfl
  | box => cases extent' with
    | disk r' => exact Iff.rfl
    | box => rw [Within, Within, Bounds.gapSquared_comm hS]

end Shapes

theorem Bounds.intersects_comm {a b : Bounds S} : a.Intersects b ↔ b.Intersects a := by
  rw [Intersects, Intersects, ← and_assoc, and_comm, and_assoc]

/-- The narrow phases of the library are symmetric. -/
theorem NarrowPhase.Provided.symmetric {phase : NarrowPhase ι S} (hS : Scalar.Symmetric S)
    (h : phase.Provided) : phase.Symmetric := by
  intro p q a b
  cases h with
  | radiusOverlap =>
    refine decide_eq_decide.2 ?_
    rw [Point.distanceSquared_comm hS, hS.add_comm]
  | boundsOverlap => exact decide_eq_decide.2 Bounds.intersects_comm
  | shapeOverlap => exact decide_eq_decide.2 (Shape.within_comm hS)
  | withinRange range => exact decide_eq_decide.2 (Shape.within_comm hS)

end Broadphase
