import Broadphase.Label.Quoted

/-!
# Handles

Objects are known by *handles*, which their owner chooses. Of a type of handles
only a total order is used: it decides which of two handles comes first in a
pair and in which order answers list them.

Whole numbers and texts are handles, texts being ordered by code points, and so
are the versioned slots of an object store (`VersionedSlot`). Each of these also
has a number (`Numbered`), for narrow phases that look at handles.
-/

namespace Broadphase

/-- A type of handles: one with a total order, in which only equal handles compare equal. -/
class Handle (ι : Type) extends Ord ι, Std.TransOrd ι, Std.LawfulEqOrd ι where
  /-- Whether two handles are the same can be decided. -/
  decidableEq : DecidableEq ι

attribute [reducible, instance] Handle.decidableEq

instance : Handle UInt32 where
  decidableEq := inferInstance

instance : Handle Int64 where
  decidableEq := inferInstance

instance : Handle String where
  decidableEq := inferInstance

/-- A slot of an object store, with a version telling apart the objects that it held in turn. -/
structure VersionedSlot where
  /-- How often the slot was taken before. -/
  version : UInt16
  /-- The place in the store. -/
  slot : UInt32
  deriving DecidableEq, Repr

namespace VersionedSlot

/-- Versions are compared first. -/
instance : Ord VersionedSlot where
  compare := compareLex (compareOn version) (compareOn slot)

instance : Std.TransOrd VersionedSlot :=
  inferInstanceAs (Std.TransCmp (compareLex (compareOn version) (compareOn slot)))

instance : Std.LawfulEqOrd VersionedSlot where
  eq_of_compare {a b} h := by
    obtain ⟨hv, hs⟩ := compareLex_eq_eq.1 (show compareLex _ _ a b = .eq from h)
    cases a; cases b
    simp_all [compareOn]

instance : Handle VersionedSlot where
  decidableEq := inferInstance

instance : Label VersionedSlot :=
  ⟨fun h => "(" ++ toString h.version ++ ", " ++ toString h.slot ++ ")"⟩

end VersionedSlot

/-- A type of handles that have a number. -/
class Numbered (ι : Type) where
  /-- The number of a handle. -/
  number : ι → Int

export Numbered (number)

instance : Numbered UInt32 := ⟨fun n => n.toNat⟩

instance : Numbered Int64 := ⟨Int64.toInt⟩

/-- The number of a text is its length in UTF-8. -/
instance : Numbered String := ⟨fun s => s.utf8ByteSize⟩

instance : Numbered VersionedSlot := ⟨fun h => h.slot.toNat⟩

end Broadphase
