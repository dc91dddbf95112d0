import Broadphase.Handle

/-!
# Pairs

An unordered pair of distinct handles, kept with the lower handle first, so that
each pair has one form. Pairs are ordered by their lower handle, then by their
higher one.
-/

namespace Broadphase

/-- An unordered pair of distinct handles. -/
structure Pair (ι : Type) [Handle ι] where
  /-- The lower handle. -/
  lo : ι
  /-- The higher handle. -/
  hi : ι
  /-- The handles are distinct and in order. -/
  lo_lt_hi : compare lo hi = .lt

variable {ι : Type} [Handle ι]

namespace Pair

theorem ext_iff {p q : Pair ι} : p = q ↔ p.lo = q.lo ∧ p.hi = q.hi := by
  cases p; cases q; simp

instance : DecidableEq (Pair ι) := fun _ _ => decidable_of_iff _ ext_iff.symm

instance : Ord (Pair ι) where
  compare := compareLex (compareOn lo) (compareOn hi)

instance : Std.TransOrd (Pair ι) :=
  inferInstanceAs (Std.TransCmp (compareLex (compareOn lo) (compareOn hi)))

instance : Std.LawfulEqOrd (Pair ι) where
  eq_of_compare {p q} h := by
    obtain ⟨hl, hh⟩ := compareLex_eq_eq.1 (show compareLex _ _ p q = .eq from h)
    exact ext_iff.2 ⟨Std.LawfulEqOrd.eq_of_compare hl, Std.LawfulEqOrd.eq_of_compare hh⟩

/-- The pair of two handles, if they are distinct. -/
def of? (a b : ι) : Option (Pair ι) :=
  match h : compare a b with
  | .lt => some ⟨a, b, h⟩
  | .gt => some ⟨b, a, Std.OrientedCmp.lt_of_gt h⟩
  | .eq => none

/-- A handle is one of the two. -/
instance : Membership ι (Pair ι) where
  mem p a := a = p.lo ∨ a = p.hi

instance (a : ι) (p : Pair ι) : Decidable (a ∈ p) := inferInstanceAs (Decidable (_ ∨ _))

/-- The other handle of a pair. -/
def partner? (p : Pair ι) (a : ι) : Option ι :=
  if a = p.lo then some p.hi
  else if a = p.hi then some p.lo
  else none

end Pair

end Broadphase
