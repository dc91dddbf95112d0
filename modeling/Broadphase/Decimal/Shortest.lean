import Broadphase.Decimal

/-!
# Shortest decimals

A positive binary value `mantissa * 2 ^ exponent` shares a *rounding interval*
with all reals that round to it. `Decimal.shortest` is the decimal in that
interval with the fewest digits and, among those, the one nearest to the value;
an exact tie goes to the larger.

The interval ends halfway to the two neighbouring values, and its ends belong to
it if the mantissa is even, as ties round to even. The neighbour below is only
half as far away where the mantissa is the least of its binade (`narrowBelow`).

The search goes from the coarsest grid of powers of ten that could meet the
interval to finer ones. On each grid only the two neighbours of the value can be
the nearest, and the finest grid holds the value itself (`Decimal.exact`), so the
search always ends with an answer.
-/

namespace Broadphase

namespace Decimal

/-- The power of a base, or `1` if the exponent is negative. -/
def power (base : Nat) (exponent : Int) : Nat := Nat.pow base exponent.toNat

variable (mantissa : Nat) (exponent : Int) (narrowBelow : Bool)

/-- All digits of `mantissa * 2 ^ exponent`. -/
def exact : Decimal where
  -- `2 ^ -n` is `5 ^ n * 10 ^ -n`, and one of the two powers is `1`.
  significand := mantissa * power 2 exponent * power 5 (-exponent)
  exponent := min exponent 0

/-- The multiple of `10 ^ unit` in the rounding interval that is nearest to the value, if there is
    one. -/
def nearestMultiple? (unit : Int) : Option Nat :=
  -- All is counted in quarters of `2 ^ exponent`, scaled until both bases have natural powers.
  let step := power 10 unit * power 2 (2 - exponent)
  let quarter := power 2 (exponent - 2) * power 10 (-unit)
  let value := 4 * mantissa * quarter
  let low := (4 * mantissa - if narrowBelow then 1 else 2) * quarter
  let high := (4 * mantissa + 2) * quarter
  let admits n :=
    if mantissa % 2 = 0 then low ≤ n * step ∧ n * step ≤ high else low < n * step ∧ n * step < high
  let below := value / step
  let above := below + 1
  if admits below then
    if admits above ∧ above * step - value ≤ value - below * step then some above else some below
  else if admits above then some above
  else none

/-- The first grid with a multiple in the rounding interval, of those at most `steps` powers of ten
    coarser than the exact one. -/
def search : Nat → Decimal
  | 0 => exact mantissa exponent
  | steps + 1 =>
    let unit := min exponent 0 + (steps + 1)
    match nearestMultiple? mantissa exponent narrowBelow unit with
    | some n => ⟨n, unit⟩
    | none => search steps

/-- The decimal with the fewest digits that rounds to `mantissa * 2 ^ exponent`. -/
def shortest : Decimal :=
  search mantissa exponent narrowBelow (exact mantissa exponent).digits.length

end Decimal

end Broadphase
