import Broadphase.Tracker.Parallel
import Mathlib.Data.List.Perm.Basic

/-!
# Schedules

Workers confirm the same pairs as one who tests all candidates alone, in another
order (`Schedule.run_perm`).
-/

namespace Broadphase

variable {ι : Type} [Handle ι] {confirms : Pair ι → Bool}

/-- The buffer of a worker fills up from the front. -/
theorem Worker.buffer_foldl_test (w : Worker ι) (pairs : List (Pair ι)) :
    (pairs.foldl (test confirms) w).buffer = (pairs.filter confirms).reverse ++ w.buffer := by
  induction pairs generalizing w with
  | nil => rfl
  | cons p pairs ih =>
    rw [List.foldl_cons, ih, test]
    by_cases hp : confirms p
    · rw [if_pos hp, List.filter_cons_of_pos hp, List.reverse_cons, List.append_assoc]
      rfl
    · rw [if_neg hp, List.filter_cons_of_neg hp]

theorem Worker.run_eq (w : Worker ι) : w.run confirms = (w.share.filter confirms).reverse := by
  rw [run, buffer_foldl_test, reset, List.append_nil]

/-- Whatever the schedule, workers confirm what one of them would confirm alone. -/
theorem Schedule.run_perm (schedule : Schedule ι) (confirms : Pair ι → Bool)
    (candidates : List (Pair ι)) :
    (schedule.run confirms candidates).Perm (candidates.filter confirms) := by
  have hrun : schedule.run confirms candidates =
      (schedule.workers candidates).flatMap (Worker.run confirms) := by
    rw [run, List.flatMap_map]
    -- What a task gives is what its work gives.
    rfl
  rw [hrun]
  refine .trans ?_ ((schedule.shares_perm candidates).filter confirms)
  rw [List.filter_flatMap]
  refine List.Perm.flatMap_left _ fun w _ => ?_
  rw [Worker.run_eq]
  exact List.reverse_perm _

end Broadphase
