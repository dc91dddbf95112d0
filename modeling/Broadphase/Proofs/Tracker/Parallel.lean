import Broadphase.Proofs.Tracker.Rounds

/-!
# Parallel rounds

It makes no difference to a round whether its candidates are tested one after the
other or spread over workers, and how they are spread (`tickParallel_eq`). The
workers confirm the same pairs in another order (`Schedule.run_perm`), and the
contacts only look at which pairs are confirmed (`Contacts.Current.update_congr`).
So in a run all rounds can as well be serial ones (`tickParallel_run`).
-/

namespace Broadphase

variable {ι S : Type} [Handle ι] [Scalar S]

namespace Tracker

variable {t : Tracker ι S} {cellSize : S} {phase : NarrowPhase ι S} {latest : List (Update ι S)}

omit [Scalar S] in
/-- The order of the confirmed pairs does not matter at the end of a round. -/
theorem conclude_congr (h : t.contacts.Current) (g : Grid ι S) (scanner : Scanner ι)
    (candidates : List (Pair ι)) {confirmed confirmed' : List (Pair ι)}
    (hperm : confirmed.Perm confirmed') :
    t.conclude g scanner candidates confirmed = t.conclude g scanner candidates confirmed' := by
  simp only [conclude, concludeWith, h.update_congr fun p => hperm.mem_iff, hperm.length_eq]

/-- A parallel round is a serial one, whatever its schedule, and whatever is left in the buffers of
    its workers. -/
theorem tickParallel_eq (h : t.contacts.Current) (schedule : Schedule ι)
    (updates : List (Update ι S)) : t.tickParallel schedule updates = t.tick updates := by
  rw [tickParallel, tick, tickWith, tickWith]
  refine bind_congr fun g => ?_
  exact congrArg Except.ok (conclude_congr h g _ _ (schedule.run_perm _ _))

/-- A turn may as well be made serial. -/
theorem take_serial (h : t.contacts.Current) (turn : Turn ι S) :
    t.take turn.serial = t.take turn := by
  cases turn with
  | listen => rfl
  | tick => rfl
  | tickParallel schedule updates =>
    rw [take, tickParallel_eq h]
    rfl

/-- Turns that are all made serial have the same answers, and lead to the same tracker. -/
theorem Settled.run_serial (h : t.Settled cellSize phase latest) (turns : List (Turn ι S)) :
    t.run (turns.map .serial) = t.run turns ∧ t.answers (turns.map .serial) = t.answers turns := by
  induction turns generalizing t latest with
  | nil => exact ⟨rfl, rfl⟩
  | cons turn turns ih =>
    have hafter : t.after turn.serial = t.after turn := by
      rw [Tracker.after, Tracker.after, take_serial h.current]
    obtain ⟨hrun, hanswers⟩ := ih (h.after turn)
    rw [List.map_cons, answers, answers, take_serial h.current, hafter, hanswers]
    refine ⟨?_, rfl⟩
    rw [Tracker.run, List.foldl_cons, hafter]
    exact hrun

/-- After any run, a parallel round is the same as a serial one, in its answer and in all that it
    leads to, whatever the schedule and whatever is left in the buffers of the workers. So a run is
    the same as the run with all rounds serial. -/
theorem tickParallel_run {settings : Settings S} (h : build settings phase = .ok t)
    (turns : List (Turn ι S)) :
    (∀ schedule updates,
      (t.run turns).tickParallel schedule updates = (t.run turns).tick updates) ∧
    t.run turns = t.run (turns.map .serial) ∧ t.answers turns = t.answers (turns.map .serial) := by
  have hnew := settled_of_build h
  obtain ⟨hrun, hanswers⟩ := hnew.run_serial turns
  exact ⟨tickParallel_eq (hnew.run turns).current, hrun.symm, hanswers.symm⟩

/-- Two workers, one with nothing to do. In the buffers of both there is a pair that does not
    interact. -/
theorem tickParallel_run_leftover :
    let t : Tracker UInt32 ℚ := ⟨.empty 10, .new, .radiusOverlap, .new, [], 0⟩
    let disk (x r : ℚ) : Shape ℚ := { position := ⟨x, 0⟩, extent := .disk r }
    let schedule : Schedule UInt32 := {
      workers := fun candidates => [⟨[⟨1, 3, rfl⟩], []⟩, ⟨[⟨1, 3, rfl⟩], candidates.reverse⟩]
      shares_perm := fun candidates => by simp [List.reverse_perm] }
    let turns : List (Turn UInt32 ℚ) := [
      .tickParallel schedule [(1, disk 0 3), (2, disk 4 2), (3, disk 9 1)],
      .tick [(1, disk 0 (-1))],
      .tickParallel schedule [(1, disk 0 3), (2, disk 7 2), (3, disk 9 1)]]
    build { cellSize := (10 : ℚ) } .radiusOverlap = .ok t ∧
      (∀ schedule updates,
        (t.run turns).tickParallel schedule updates = (t.run turns).tick updates) ∧
      t.run turns = t.run (turns.map .serial) ∧
      t.answers turns = t.answers (turns.map .serial) := by
  have h : build { cellSize := (10 : ℚ) } .radiusOverlap =
      .ok (⟨.empty 10, .new, .radiusOverlap, .new, [], 0⟩ : Tracker UInt32 ℚ) :=
    build_eq_ok_iff.2 ⟨by decide +kernel, rfl⟩
  exact ⟨h, tickParallel_run h _⟩

end Tracker

end Broadphase
