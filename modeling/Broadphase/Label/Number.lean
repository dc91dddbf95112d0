import Broadphase.Decimal.Shortest
import Broadphase.Label

/-!
# Labels of machine scalars

A finite scalar is named by the fewest digits that read back to it at its own
precision, with the sign in front, also for a negative zero. Infinities are
`inf` and `-inf`, and what is not a number is `NaN`.
-/

namespace Broadphase

namespace Floating

open Float.Model

/-- The sign in front of a label. -/
def signText : UnpackedFloat.Sign → String
  | .positive => ""
  | .negative => "-"

/-- Whether the neighbour below a value is only half as far away as the one above: its mantissa is
    the least of its binade, and there are finer binades below. -/
def narrowBelow (format : Format) (mantissa : Nat) (exponent : Int) : Bool :=
  mantissa = 1 <<< format.mantissaBitsWithoutImplicit ∧ format.minExponent < exponent

/-- The label of a value of the given precision. -/
def label (format : Format) : UnpackedFloat → String
  | .notANumber => "NaN"
  | .infinity sign => signText sign ++ "inf"
  | .zero sign => signText sign ++ (Decimal.mk 0 0).text
  | .finite sign mantissa exponent _ =>
    let narrow := narrowBelow format mantissa exponent
    signText sign ++ (Decimal.shortest mantissa exponent narrow).text

end Floating

instance : Label Float32 := ⟨fun x => Floating.label .binary32 x.toModel.unpack⟩

instance : Label Float := ⟨fun x => Floating.label .binary64 x.toModel.unpack⟩

end Broadphase
