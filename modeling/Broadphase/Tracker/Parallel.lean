import Broadphase.Tracker

/-!
# Parallel rounds

The candidates of a round can be tested by several workers at once. A *schedule*
says how they are spread: it names the workers and gives each its share, such
that the shares together are the candidates, in any order. Each worker collects
what it confirms in a buffer of its own, which it brings along and empties first;
at the end the buffers are put together.

Every schedule makes the same rounds, and they are the same as those of
`Tracker.tick`: only the order in which pairs are confirmed depends on it, and the
contacts do not look at that.
-/

namespace Broadphase

/-- One who tests candidates. -/
structure Worker (ι : Type) [Handle ι] where
  /-- The buffer for confirmed pairs, which may hold pairs from earlier work. -/
  buffer : List (Pair ι)
  /-- The candidates to test. -/
  share : List (Pair ι)

/-- A way to spread candidates over workers. -/
structure Schedule (ι : Type) [Handle ι] where
  /-- The workers for a list of candidates. -/
  workers : List (Pair ι) → List (Worker ι)
  /-- The shares together are the candidates, in any order. -/
  shares_perm : ∀ candidates, ((workers candidates).flatMap (·.share)).Perm candidates

variable {ι S : Type} [Handle ι] [Scalar S]

namespace Worker

/-- The worker with an empty buffer. -/
def reset (w : Worker ι) : Worker ι := { w with buffer := [] }

/-- The worker after testing one pair. -/
def test (confirms : Pair ι → Bool) (w : Worker ι) (p : Pair ι) : Worker ι :=
  if confirms p then { w with buffer := p :: w.buffer } else w

/-- What a worker confirms. -/
def run (confirms : Pair ι → Bool) (w : Worker ι) : List (Pair ι) :=
  (w.share.foldl (test confirms) w.reset).buffer

end Worker

namespace Schedule

/-- A list cut into halves again and again. -/
def halve {α : Type} : (depth : Nat) → List α → List (List α)
  | 0, xs => [xs]
  | depth + 1, xs =>
    halve depth (xs.take (xs.length / 2)) ++ halve depth (xs.drop (xs.length / 2))

theorem flatten_halve {α : Type} (depth : Nat) (xs : List α) : (halve depth xs).flatten = xs := by
  induction depth generalizing xs with
  | zero => simp [halve]
  | succ depth ih => simp [halve, ih]

/-- As many new workers as there are leaves in a binary tree of the given depth, with shares of
    about the same size. -/
def even (depth : Nat) : Schedule ι where
  workers candidates := (halve depth candidates).map fun share => ⟨[], share⟩
  shares_perm candidates := by
    rw [List.flatMap_map, List.flatMap_id', flatten_halve]

/-- Let all workers run at once, and put together what they confirm. -/
def run (schedule : Schedule ι) (confirms : Pair ι → Bool) (candidates : List (Pair ι)) :
    List (Pair ι) :=
  let tasks := (schedule.workers candidates).map fun w => Task.spawn fun _ => w.run confirms
  tasks.flatMap Task.get

end Schedule

namespace Tracker

/-- A round in which the candidates are spread over workers. -/
def tickParallel (schedule : Schedule ι) (t : Tracker ι S) (updates : List (Update ι S)) :
    Except (GridError ι) (Tracker ι S × Report ι) :=
  t.tickWith schedule.run updates

end Tracker

end Broadphase
