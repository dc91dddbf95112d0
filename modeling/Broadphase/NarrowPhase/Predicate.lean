import Broadphase.NarrowPhase

/-!
# Narrow phases by predicate

An application can confirm pairs by a rule of its own, about the handles or about
the shapes. These are some simple rules; all of them have reach zero.
-/

namespace Broadphase.NarrowPhase

variable {ι S : Type} [Handle ι] [Scalar S]

/-- Confirms every proposed pair. -/
def always : NarrowPhase ι S := ofPredicate fun _ _ _ => true

/-- Confirms no pair. -/
def never : NarrowPhase ι S := ofPredicate fun _ _ _ => false

/-- Confirms the pairs whose lower handle has an odd number. -/
def lowerOdd [Numbered ι] : NarrowPhase ι S := ofPredicate fun p _ _ => number p.lo % 2 = 1

/-- Confirms the pairs whose handles have consecutive numbers. -/
def consecutive [Numbered ι] : NarrowPhase ι S :=
  ofPredicate fun p _ _ => number p.hi - number p.lo = 1

/-- Confirms the pairs in which the object of the lower handle is to the left of the other. -/
def leftOf : NarrowPhase ι S := ofPredicate fun _ a b => a.position.x < b.position.x

end Broadphase.NarrowPhase
