import Broadphase.Scalar

/-!
# Machine scalars

The two binary floating-point precisions as scalars. Their arithmetic rounds to
the nearest representable value; their integer part is computed exactly, from
the sign, the mantissa and the exponent, so it never overflows.
-/

namespace Broadphase

/-- The greatest integer that is at most `± mantissa * 2 ^ exponent`, and none for an infinity or
    for something other than a number. -/
def Floating.floor? : Float.Model.UnpackedFloat → Option Int
  | .zero _ => some 0
  | .finite sign mantissa exponent _ =>
    -- One of the two shifts is by zero, and a shift to the right rounds down.
    some (sign.apply (mantissa <<< exponent.toNat : Nat) >>> (-exponent).toNat)
  | .infinity _ => none
  | .notANumber => none

instance : Scalar Float32 where
  zero := 0
  decidableLE := inferInstance
  decidableLT := inferInstance
  floor? x := Floating.floor? x.toModel.unpack

instance : Scalar Float where
  zero := 0
  decidableLE := inferInstance
  decidableLT := inferInstance
  floor? x := Floating.floor? x.toModel.unpack

end Broadphase
