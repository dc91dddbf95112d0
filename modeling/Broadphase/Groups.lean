/-!
# Collision groups

Objects are sorted into 32 groups, and two objects can only interact if they
share one. A set of groups is a word with one bit per group, and two sets share a
group if they have a bit in common (`Groups.shares_iff`).
-/

namespace Broadphase

/-- A set of collision groups. -/
structure Groups where
  /-- Bit `i` tells whether group `i` is in the set. -/
  bits : UInt32
  deriving DecidableEq, Repr

namespace Groups

/-- Every group. -/
def all : Groups := ⟨0xffffffff⟩

/-- No group. -/
def none : Groups := ⟨0⟩

/-- An object belongs to every group unless told otherwise. -/
instance : Inhabited Groups := ⟨all⟩

/-- A group is in a set if its bit is set. -/
instance : Membership (Fin 32) Groups where
  mem a i := a.bits.toBitVec[i] = true

/-- The set of the one group `index`, if there is such a group. -/
def single? (index : UInt32) : Option Groups :=
  if index < 32 then some ⟨1 <<< index⟩ else Option.none

/-- The groups of either set. -/
instance : Union Groups := ⟨fun a b => ⟨a.bits ||| b.bits⟩⟩

/-- The groups of both sets. -/
instance : Inter Groups := ⟨fun a b => ⟨a.bits &&& b.bits⟩⟩

/-- Whether two sets have a group in common. -/
def shares (a b : Groups) : Bool := a ∩ b ≠ none

/-- Whether every group of `b` is in `a`. -/
def includes (a b : Groups) : Bool := a ∩ b = b

/-! ## Members -/

variable {a b : Groups} {i : Fin 32}

theorem not_mem_none : i ∉ none := fun h => Bool.false_ne_true (BitVec.getElem_zero i.isLt ▸ h)

theorem mem_inter : i ∈ a ∩ b ↔ i ∈ a ∧ i ∈ b := by
  have hbit : (a ∩ b).bits.toBitVec[i] = (a.bits.toBitVec[i] && b.bits.toBitVec[i]) :=
    BitVec.getElem_and i.isLt
  change (a ∩ b).bits.toBitVec[i] = true ↔ _
  rw [hbit, Bool.and_eq_true]
  exact Iff.rfl

/-- No other set is without members. -/
theorem eq_none_iff : a = none ↔ ∀ i, i ∉ a := by
  constructor
  · rintro rfl i
    exact not_mem_none
  · intro h
    have hbits : a.bits = 0 := UInt32.toBitVec_inj.1 <| BitVec.eq_of_getElem_eq fun i hi =>
      (Bool.eq_false_iff.2 (h ⟨i, hi⟩)).trans (BitVec.getElem_zero hi).symm
    exact congrArg mk hbits

/-- Two sets share a group if there is one that is in both of them. -/
theorem shares_iff : a.shares b ↔ ∃ i, i ∈ a ∧ i ∈ b := by
  have hshares : a.shares b ↔ a ∩ b ≠ none := decide_eq_true_iff
  rw [hshares, Ne, eq_none_iff, Classical.not_forall_not]
  exact exists_congr fun _ => mem_inter

end Groups

end Broadphase
