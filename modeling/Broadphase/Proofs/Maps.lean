import Std.Data.ExtTreeMap
import Std.Data.ExtTreeSet

/-!
# Maps and sets

What a map holds, or a set, after a key has been inserted or removed, where keys
that compare equal are equal.
-/

namespace Broadphase

variable {α β : Type} [Ord α] [Std.TransOrd α] [Std.LawfulEqOrd α] {a k : α} {v w : β}

section Maps

variable [DecidableEq α] {m : Std.ExtTreeMap α β}

theorem getElem?_insert_ite : (m.insert k v)[a]? = if a = k then some v else m[a]? := by
  simp only [Std.ExtTreeMap.getElem?_insert, Std.LawfulEqCmp.compare_eq_iff_eq, eq_comm (a := k)]

theorem getElem?_erase_ite : (m.erase k)[a]? = if a = k then none else m[a]? := by
  simp only [Std.ExtTreeMap.getElem?_erase, Std.LawfulEqCmp.compare_eq_iff_eq, eq_comm (a := k)]

/-- What is inserted last at a key is what the map holds there. -/
theorem insert_insert_self : (m.insert k v).insert k w = m.insert k w := by
  refine Std.ExtTreeMap.ext_getElem? fun a => ?_
  simp only [getElem?_insert_ite]
  split <;> rfl

end Maps

variable {s : Std.ExtTreeSet α}

theorem mem_insert_iff : a ∈ s.insert k ↔ a = k ∨ a ∈ s := by
  rw [Std.ExtTreeSet.mem_insert, Std.LawfulEqCmp.compare_eq_iff_eq, eq_comm]

theorem mem_erase_iff : a ∈ s.erase k ↔ a ≠ k ∧ a ∈ s := by
  rw [Std.ExtTreeSet.mem_erase, ne_eq, Std.LawfulEqCmp.compare_eq_iff_eq, eq_comm]

end Broadphase
