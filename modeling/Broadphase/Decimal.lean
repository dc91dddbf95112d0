/-!
# Decimals

A decimal is a whole number of units, the unit being a power of ten, and this is
how one is written in a message:

* a decimal whose leading digit stands for at least `10 ^ -4` and less than
  `10 ^ 16`, and zero, is written out in full (*positional*), with at least one
  digit on each side of the point;
* any other is written as its leading digit, the remaining digits after a point
  if there are any, and the power of ten of the leading digit (*scientific*).
-/

namespace Broadphase

/-- The decimal `significand * 10 ^ exponent`. -/
structure Decimal where
  /-- The digits, read as one whole number. -/
  significand : Nat
  /-- The power of ten that the last digit stands for. -/
  exponent : Int
  deriving DecidableEq, Repr

namespace Decimal

/-- The least power of ten a leading digit may stand for in positional notation. -/
def leastPositional : Int := -4

/-- The greatest power of ten a leading digit may stand for in positional notation. -/
def mostPositional : Int := 15

variable (d : Decimal)

/-- The digits of the significand, the leading one first. -/
def digits : List Char := Nat.toDigits 10 d.significand

/-- The power of ten that the leading digit stands for. -/
def leadingExponent : Int := d.exponent + d.digits.length - 1

/-- A run of digits, or a single zero in place of an empty one. -/
def digitsOrZero (run : List Char) : String :=
  String.ofList (if run.isEmpty then ['0'] else run)

/-- All digits in their places, with at least one on each side of the point. -/
def positional : String :=
  let point := d.leadingExponent + 1
  let whole := (d.digits ++ List.replicate d.exponent.toNat '0').take point.toNat
  let fraction := List.replicate (-point).toNat '0' ++ d.digits.drop point.toNat
  digitsOrZero whole ++ "." ++ digitsOrZero fraction

/-- The leading digit, the others after a point, and the power of ten. -/
def scientific : String :=
  let rest := d.digits.drop 1
  let point := if rest.isEmpty then "" else "."
  String.ofList (d.digits.take 1) ++ point ++ String.ofList rest ++ "e" ++
    toString d.leadingExponent

/-- The text of a decimal. -/
def text : String :=
  if leastPositional ≤ d.leadingExponent ∧ d.leadingExponent ≤ mostPositional then d.positional
  else d.scientific

end Decimal

end Broadphase
