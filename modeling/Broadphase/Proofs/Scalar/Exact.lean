import Mathlib.Algebra.Order.Floor.Ring
import Broadphase.Bounds

/-!
# Exact scalars

Any ordered field whose elements have integer parts, such as the rationals, is a
scalar type. Nothing is rounded in it, and all of its elements are finite
numbers, so what the library computes is what the formulas say.
-/

namespace Broadphase

variable {K : Type} [Field K] [LinearOrder K] [FloorRing K]

instance (priority := low) Scalar.exact : Scalar K where
  decidableLE := inferInstance
  decidableLT := inferInstance
  floor? x := some ⌊x⌋

namespace Scalar

theorem isFinite_exact (x : K) : isFinite x = true := rfl

theorem larger_exact (x y : K) : larger x y = max x y := by
  have hx : IsNumber x := le_refl x
  rw [larger, max_def_lt]
  simp only [hx, not_true_eq_false, or_false]

theorem smaller_exact (x y : K) : smaller x y = min x y := by
  have hx : IsNumber x := le_refl x
  rw [smaller, min_comm, min_def_lt]
  simp only [hx, not_true_eq_false, or_false]

theorem square_exact (x : K) : square x = x * x := rfl

end Scalar

end Broadphase
