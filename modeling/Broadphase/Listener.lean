import Broadphase.Contacts

/-!
# Listeners

Whoever wants to know what changes from round to round becomes a listener. After
each round the changes are delivered to the listeners in three steps: first all
of them are told of the pairs that have ended, then all of them of those ongoing,
then all of them of those that have started. In each step listeners are told in
the order in which they joined, also if there are no pairs to tell them of. A
listener can also choose to hear of one of the three only.
-/

namespace Broadphase

/-- What a listener is told of. -/
inductive Notice
  /-- The pairs that no longer interact. -/
  | ended
  /-- The pairs that still interact. -/
  | ongoing
  /-- The pairs that have come to interact. -/
  | started
  deriving DecidableEq, Repr

/-- What a listener wants to hear of. -/
inductive Listener
  /-- Everything. -/
  | all
  /-- Only one kind of notice. -/
  | only (notice : Notice)
  deriving DecidableEq, Repr

/-- One listener being told of some pairs. -/
structure Delivery (ι : Type) [Handle ι] where
  /-- The place of the listener in the order of joining, counted from zero. -/
  listener : Nat
  /-- What it is told of. -/
  notice : Notice
  /-- The pairs. -/
  pairs : List (Pair ι)
  deriving DecidableEq

variable {ι : Type} [Handle ι]

/-- The steps in which changes are delivered. -/
def Notice.steps : List Notice := [.ended, .ongoing, .started]

/-- The pairs to tell of in one step. -/
def Changes.of (c : Changes ι) : Notice → List (Pair ι)
  | .ended => c.ended
  | .ongoing => c.ongoing
  | .started => c.started

namespace Listener

/-- Whether a listener wants to hear of something. -/
def hears : Listener → Notice → Bool
  | all, _ => true
  | only wanted, notice => wanted = notice

/-- Everything that the listeners are told after a round, in order. -/
def deliveries (listeners : List Listener) (c : Changes ι) : List (Delivery ι) :=
  Notice.steps.flatMap fun notice =>
    (listeners.zipIdx.filter fun (l, _) => l.hears notice).map fun (_, i) =>
      ⟨i, notice, c.of notice⟩

end Listener

end Broadphase
