/-!
# Labels

How a handle or a scalar is named in a message or a journal line. Whole numbers
are written in decimal; the other labels are in `Broadphase.Label.Quoted` and
`Broadphase.Label.Number`.
-/

namespace Broadphase

/-- The values of a type that can be named in a message. -/
class Label (α : Type) where
  /-- The name of a value. -/
  label : α → String

export Label (label)

instance : Label Nat := ⟨toString⟩

instance : Label Int := ⟨toString⟩

instance : Label UInt32 := ⟨fun n => label n.toNat⟩

instance : Label Int64 := ⟨fun n => label n.toInt⟩

end Broadphase
