/-!
# Scalars

The coordinates and lengths of a scene are values of a scalar type. The library
is written over any such type and asks little of it: arithmetic, comparisons
that can be decided, and the integer part of a value. Nothing is assumed about
rounding, and not every value need be a number:

* a value that is not a number is not even at most itself (`Scalar.IsNumber`);
* a value is finite if it has an integer part (`Scalar.isFinite`).

The two machine precisions are instances in `Broadphase.Scalar.Floating`.
-/

namespace Broadphase

/-- A type of coordinates and lengths, with possibly rounding arithmetic. -/
class Scalar (S : Type) extends Zero S, Add S, Sub S, Mul S, Div S, LE S, LT S where
  /-- Whether one value is at most another can be decided. -/
  decidableLE : DecidableLE S
  /-- Whether one value is below another can be decided. -/
  decidableLT : DecidableLT S
  /-- The greatest integer that is at most a value, if the value is finite. -/
  floor? : S → Option Int

attribute [reducible, instance] Scalar.decidableLE Scalar.decidableLT

namespace Scalar

variable {S : Type} [Scalar S]

/-- A number is comparable, at least with itself. -/
abbrev IsNumber (x : S) : Prop := x ≤ x

/-- Neither infinite nor something other than a number. -/
def isFinite (x : S) : Bool := (floor? x).isSome

/-- The larger of two values, or the one that is a number. -/
def larger (x y : S) : S := if x < y ∨ ¬ IsNumber x then y else x

/-- The smaller of two values, or the one that is a number. -/
def smaller (x y : S) : S := if y < x ∨ ¬ IsNumber x then y else x

/-- The square of a length. -/
def square (x : S) : S := x * x

end Scalar

end Broadphase
