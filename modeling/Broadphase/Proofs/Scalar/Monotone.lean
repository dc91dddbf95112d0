import Broadphase.Cell
import Broadphase.Proofs.Region.Distance
import Broadphase.Proofs.Scalar.Exact

/-!
# Monotone scalars

Arithmetic that rounds obeys few laws, but it does not turn the order of values
around: if one value is at most another, then it still is after both have been
divided by a cell size and rounded down. A scalar type of which that is true is
*monotone* (`Scalar.Monotone`). Nothing is asked of its sums and differences, and
its values need not all be comparable.

Exact scalars are monotone (`monotone_exact`), and so are fixed-point numbers
(`Hundredths`), whose quotients are rounded.
-/

namespace Broadphase

namespace Scalar

/-- The way from a position to a coordinate keeps the order. -/
structure Monotone (S : Type) [Scalar S] : Prop where
  /-- Dividing by a cell size keeps the order. -/
  div_le_div {c x y : S} : isFinite c → 0 < c → x ≤ y → x / c ≤ y / c
  /-- Rounding down to a coordinate keeps the order, unless that is beyond the edges of the grid. -/
  floor_le_floor {x y : S} {k l : Int32} : x ≤ y → (floor? x).bind Cell.coordinate? = some k →
    (floor? y).bind Cell.coordinate? = some l → k ≤ l

theorem monotone_exact {K : Type} [Field K] [LinearOrder K] [FloorRing K] [IsStrictOrderedRing K] :
    Monotone K where
  div_le_div _ hc hxy := div_le_div_of_nonneg_right hxy hc.le
  floor_le_floor hxy hk hl := by
    rw [Int32.le_iff_toInt_le, Cell.coordinate?_eq_some_iff.1 hk, Cell.coordinate?_eq_some_iff.1 hl]
    exact Int.floor_mono hxy

end Scalar

/-- A number with two decimals, as so many hundredths. -/
structure Hundredths where
  /-- The number of hundredths. -/
  count : Int
  deriving DecidableEq, Repr

namespace Hundredths

/-- Products and quotients are rounded down to hundredths. -/
instance : Scalar Hundredths where
  zero := ⟨0⟩
  add x y := ⟨x.count + y.count⟩
  sub x y := ⟨x.count - y.count⟩
  mul x y := ⟨x.count * y.count / 100⟩
  div x y := ⟨x.count * 100 / y.count⟩
  le x y := x.count ≤ y.count
  lt x y := x.count < y.count
  decidableLE x y := inferInstanceAs (Decidable (x.count ≤ y.count))
  decidableLT x y := inferInstanceAs (Decidable (x.count < y.count))
  floor? x := some (x.count / 100)

theorem monotone : Scalar.Monotone Hundredths where
  div_le_div {c x y} _ hc hxy :=
    Int.ediv_le_ediv (show 0 < c.count from hc) (Int.mul_le_mul_of_nonneg_right hxy (by decide))
  floor_le_floor {x y k l} hxy hk hl := by
    rw [Int32.le_iff_toInt_le, Cell.coordinate?_eq_some_iff.1 hk, Cell.coordinate?_eq_some_iff.1 hl]
    exact Int.ediv_le_ediv (by decide) hxy

end Hundredths

end Broadphase
