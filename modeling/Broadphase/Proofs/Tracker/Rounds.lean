import Broadphase.Proofs.Contacts.Rounds
import Broadphase.Proofs.Grid.Refresh
import Broadphase.Proofs.Scan.Candidates
import Broadphase.Proofs.Tracker.Schedules
import Broadphase.Tracker.Run

/-!
# Rounds of a tracker

What a tracker knows depends only on the shapes of the latest round that did not
fail (`Tracker.Settled`): its grid holds them, and its contacts are the pairs
that interact among them (`Interacting`). A round leads from there to what
belongs to the shapes that it is given, however its candidates are tested, and
tells what has changed (`Settled.tickWith`).

* `Shape.Near`, `Interacting`: which pairs interact, said without a grid;
* `Settled.after`, `Settled.run`: one turn and many, failing ones included;
* `Settled.rounds_run`, `fits_run`: how rounds are counted, and that a 64-bit word
  is large enough for that;
* `tick_run`: the round after a run.
-/

namespace Broadphase

variable {ι S : Type} [Handle ι] [Scalar S]

/-- Two shapes have cells of the given size that are the same or adjacent. -/
def Shape.Near (cellSize : S) (a b : Shape S) : Prop :=
  ∃ r r', a.region? cellSize = some r ∧ b.region? cellSize = some r' ∧ r.Near 1 r'

/-- Two objects interact, if these are the shapes of all objects: they are close to each other,
    share a group, and the narrow phase confirms them. -/
def Interacting (cellSize : S) (phase : NarrowPhase ι S) (shapes : ι → Option (Shape S))
    (p : Pair ι) : Prop :=
  ∃ a b, shapes p.lo = some a ∧ shapes p.hi = some b ∧
    a.Near cellSize b ∧ a.groups.shares b.groups ∧ phase.confirms p a b

variable {cellSize : S} {phase : NarrowPhase ι S} {p : Pair ι}

/-! ## Candidates -/

namespace Grid

variable {g : Grid ι S} {shapes : ι → Option (Shape S)}

/-- Whether objects are close to each other depends on their shapes only. -/
theorem Holds.near_iff (h : g.Holds cellSize shapes) {a b : ι} : g.Near 1 a b ↔
    ∃ s s', shapes a = some s ∧ shapes b = some s' ∧ s.Near cellSize s' := by
  simp only [Near, h.consistent.region?_eq, h.cellSize_eq, h.shape?_eq, Option.bind_eq_some_iff,
    Shape.Near]
  constructor
  · rintro ⟨r, r', ⟨s, hs, hr⟩, ⟨s', hs', hr'⟩, hnear⟩
    exact ⟨s, s', hs, hs', r, r', hr, hr', hnear⟩
  · rintro ⟨s, s', hs, hs', r, r', hr, hr', hnear⟩
    exact ⟨r, r', ⟨s, hs, hr⟩, ⟨s', hs', hr'⟩, hnear⟩

/-- Whether a pair passes the test depends on the shapes only. -/
theorem Holds.confirms_iff (h : g.Holds cellSize shapes) : Tracker.confirms phase g p ↔
    ∃ a b, shapes p.lo = some a ∧ shapes p.hi = some b ∧
      a.groups.shares b.groups ∧ phase.confirms p a b := by
  rw [Tracker.confirms, h.shape?_eq, h.shape?_eq]
  cases shapes p.lo <;> cases shapes p.hi <;> simp

/-- A pair interacts exactly if it is a candidate that passes the test. -/
theorem Holds.interacting_iff (h : g.Holds cellSize shapes) :
    Interacting cellSize phase shapes p ↔ g.Near 1 p.lo p.hi ∧ Tracker.confirms phase g p := by
  rw [h.near_iff, h.confirms_iff]
  constructor
  · rintro ⟨a, b, ha, hb, hnear, htest⟩
    exact ⟨⟨a, b, ha, hb, hnear⟩, a, b, ha, hb, htest⟩
  · rintro ⟨⟨a, b, ha, hb, hnear⟩, a', b', ha', hb', htest⟩
    obtain rfl := Option.some.inj (ha.symm.trans ha')
    obtain rfl := Option.some.inj (hb.symm.trans hb')
    exact ⟨a, b, ha, hb, hnear, htest⟩

/-- The candidates are the pairs of objects near each other. -/
theorem Consistent.mem_scan (h : g.Consistent) (scanner : Scanner ι) :
    p ∈ (scanner.scan g).finish.1 ↔ g.Near 1 p.lo p.hi := by
  rw [Scan.finish_fst]
  exact h.mem_proposals scanner (.refl _) fun _ => .refl _

/-- A grid can be refreshed only if all shapes can be placed. -/
theorem refresh_eq_ok {g' : Grid ι S} {updates : List (Update ι S)}
    (h : g.refresh updates = .ok g') : Placeable g.cellSize updates := by
  rw [← unplaceable?_eq_none_iff]
  rw [refresh] at h
  split at h
  case h_1 => exact absurd h throw_ne_ok
  case h_2 hnone => exact hnone

end Grid

/-! ## Rounds -/

namespace Tracker

variable {t t' : Tracker ι S} {updates latest : List (Update ι S)} {report : Report ι}
  {test : (Pair ι → Bool) → List (Pair ι) → List (Pair ι)}

/-- A tracker with cells of the given size and the given narrow phase is settled on some updates if
    its grid holds their shapes, and its contacts are the pairs that interact among them. -/
structure Settled (cellSize : S) (phase : NarrowPhase ι S) (updates : List (Update ι S))
    (t : Tracker ι S) : Prop where
  /-- The grid holds the last shape for each handle. -/
  holds : t.grid.Holds cellSize (lastShape? updates)
  /-- The test of candidates is this narrow phase. -/
  phase_eq : t.phase = phase
  /-- The records are those of the latest round. -/
  current : t.contacts.Current
  /-- The contacts are the pairs that interact. -/
  mem_contacts : ∀ p, p ∈ t.contacts ↔ Interacting cellSize phase (lastShape? updates) p

/-- A way of testing the members of a list finds out all that pass. -/
def Finds (test : (Pair ι → Bool) → List (Pair ι) → List (Pair ι)) : Prop :=
  ∀ confirms candidates p, p ∈ test confirms candidates ↔ p ∈ candidates ∧ confirms p

/-- A way of testing the members of a list finds out all that pass, each as often as it is there. -/
def FindsEach (test : (Pair ι → Bool) → List (Pair ι) → List (Pair ι)) : Prop :=
  ∀ confirms candidates, (test confirms candidates).Perm (candidates.filter confirms)

theorem FindsEach.finds (h : FindsEach test) : Finds test := fun _ _ _ =>
  (h _ _).mem_iff.trans List.mem_filter

theorem findsEach_filter : FindsEach (List.filter (α := Pair ι)) := fun _ _ => .refl _

theorem findsEach_schedule (schedule : Schedule ι) : FindsEach schedule.run := schedule.run_perm

theorem finds_filter : Finds (List.filter (α := Pair ι)) := findsEach_filter.finds

theorem finds_schedule (schedule : Schedule ι) : Finds schedule.run :=
  (findsEach_schedule schedule).finds

/-- A round that does not fail, step by step: the grid is refreshed, scanned for candidates, and
    these are tested. -/
theorem tickWith_eq_ok_iff : t.tickWith test updates = .ok (t', report) ↔
    ∃ g, t.grid.refresh updates = .ok g ∧ (t', report) = t.conclude g
      (t.scanner.scan g).finish.2.scanner (t.scanner.scan g).finish.1
      (test (confirms t.phase g) (t.scanner.scan g).finish.1) := by
  rw [tickWith, bind_eq_ok_iff]
  exact exists_congr fun g => and_congr_right fun _ =>
    ⟨fun h => (Except.ok.inj h).symm, fun h => congrArg Except.ok h.symm⟩

/-- The first shape that cannot be placed is the one to blame. -/
theorem tickWith_of_unplaceable {u : Update ι S} (h : t.grid.unplaceable? updates = some u) :
    t.tickWith test updates = .error (.unplaceableShape u.1) := by
  rw [Tracker.tickWith, Grid.refresh, h]
  rfl

/-- A round fails only if it is given a shape that cannot be placed. -/
theorem Settled.exists_tickWith (h : t.Settled cellSize phase latest)
    (hu : Placeable cellSize updates) : ∃ t' report, t.tickWith test updates = .ok (t', report) := by
  obtain ⟨g, hg, -⟩ := h.holds.refresh hu
  exact ⟨_, _, tickWith_eq_ok_iff.2 ⟨g, hg, rfl⟩⟩

/-- A round either fails for a shape that cannot be placed, or does not fail. -/
theorem Settled.tickWith_cases (h : t.Settled cellSize phase latest)
    (test : (Pair ι → Bool) → List (Pair ι) → List (Pair ι)) (updates : List (Update ι S)) :
    (∃ u, t.grid.unplaceable? updates = some u ∧
      t.tickWith test updates = .error (.unplaceableShape u.1)) ∨
    (t.grid.unplaceable? updates = none ∧
      ∃ t' report, t.tickWith test updates = .ok (t', report)) := by
  cases hu : t.grid.unplaceable? updates with
  | some u => exact .inl ⟨u, rfl, tickWith_of_unplaceable hu⟩
  | none =>
    have hplaceable := h.holds.cellSize_eq ▸ Grid.unplaceable?_eq_none_iff.1 hu
    exact .inr ⟨rfl, h.exists_tickWith hplaceable⟩

/-- A round that does not fail settles the tracker on what it is given. -/
theorem Settled.tickWith (h : t.Settled cellSize phase latest) (htest : Finds test)
    (ht : t.tickWith test updates = .ok (t', report)) : t'.Settled cellSize phase updates := by
  obtain ⟨g, hg, heq⟩ := tickWith_eq_ok_iff.1 ht
  obtain ⟨rfl, -⟩ := Prod.mk.inj heq
  obtain ⟨g', hg', hholds⟩ := h.holds.refresh (h.holds.cellSize_eq ▸ Grid.refresh_eq_ok hg)
  obtain rfl := Except.ok.inj (hg.symm.trans hg')
  refine ⟨hholds, h.phase_eq, h.current.update _, fun p => ?_⟩
  rw [hholds.interacting_iff, ← h.phase_eq]
  refine h.current.mem_update.trans ((htest _ _ p).trans (and_congr_left' ?_))
  exact hholds.consistent.mem_scan t.scanner

/-- A round that is given some updates, after one that was given others. -/
structure IsRound (cellSize : S) (phase : NarrowPhase ι S) (before updates : List (Update ι S))
    (t t' : Tracker ι S) (report : Report ι) : Prop where
  /-- The objects of the grid are those in the list. -/
  mem_grid : ∀ id, id ∈ t'.grid ↔ id ∈ updates.map (·.1)
  /-- Each has the last shape that is given for it. -/
  shape?_eq : ∀ id, t'.grid.shape? id = lastShape? updates id
  /-- The contacts are the pairs that interact. -/
  mem_contacts : ∀ p, p ∈ t'.contacts ↔ Interacting cellSize phase (lastShape? updates) p
  /-- What is told is what the contacts have noted. -/
  changes_eq : t'.contacts.changes = report.changes
  /-- It is what has changed from the round before. -/
  between : report.changes.Between (Interacting cellSize phase (lastShape? before))
    (Interacting cellSize phase (lastShape? updates))
  /-- All pairs of a handle that is not in the list have ended. -/
  ended_of_departed : ∀ id ∉ updates.map (·.1), ∀ p ∈ t.contacts, id ∈ p → p ∈ report.changes.ended

/-- What a round that does not fail tells, and what it leads to, in terms of the shapes that it is
    given and of those before. -/
theorem Settled.isRound (h : t.Settled cellSize phase latest) (htest : Finds test)
    (ht : t.tickWith test updates = .ok (t', report)) :
    IsRound cellSize phase latest updates t t' report := by
  have hnew := h.tickWith htest ht
  obtain ⟨g, -, heq⟩ := tickWith_eq_ok_iff.1 ht
  obtain ⟨rfl, rfl⟩ := Prod.mk.inj heq
  have hbetween := h.current.between_update (test (confirms t.phase g) (t.scanner.scan g).finish.1)
  have hlast (id : ι) (hid : id ∉ updates.map (·.1)) : lastShape? updates id = none := by
    rwa [← Option.not_isSome_iff_eq_none, isSome_lastShape?]
  refine ⟨fun id => ?_, hnew.holds.shape?_eq, hnew.mem_contacts, rfl,
    hbetween.congr h.mem_contacts hnew.mem_contacts, fun id hid p hp hmem => ?_⟩
  · rw [← Grid.isSome_shape?, hnew.holds.shape?_eq, isSome_lastShape?]
  · -- A pair that interacts is one of two objects in the list.
    refine (hbetween.mem_ended p).2 ⟨hp, fun hp' => ?_⟩
    obtain ⟨a, b, ha, hb, -⟩ := (hnew.mem_contacts p).1 hp'
    rcases hmem with rfl | rfl
    · exact absurd (ha.symm.trans (hlast _ hid)) nofun
    · exact absurd (hb.symm.trans (hlast _ hid)) nofun

/-! ## Runs -/

/-- The settings will do: the reach is a length, and the cell size one above zero, and at least the
    reach. -/
theorem check_eq_ok_iff {settings : Settings S} {reach : S} : settings.check reach = .ok () ↔
    (Scalar.isFinite reach ∧ 0 ≤ reach) ∧ ¬ settings.cellSize < reach ∧
      Scalar.isFinite settings.cellSize ∧ 0 < settings.cellSize := by
  rw [Settings.check, ← Grid.checkCellSize_eq_ok_iff]
  split
  case isTrue h => exact iff_of_false throw_ne_ok fun h' => h h'.1
  case isFalse h =>
    split
    case isTrue hlt => exact iff_of_false throw_ne_ok fun h' => h'.2.1 hlt
    case isFalse hle => rw [and_iff_right (not_not.1 h), and_iff_right hle]

/-- A tracker is built if the settings will do, and has nothing to remember. -/
theorem build_eq_ok_iff {settings : Settings S} : build settings phase = .ok t ↔
    ((Scalar.isFinite phase.reach ∧ 0 ≤ phase.reach) ∧ ¬ settings.cellSize < phase.reach ∧
      Scalar.isFinite settings.cellSize ∧ 0 < settings.cellSize) ∧
      t = ⟨.empty settings.cellSize, .new, phase, .new, [], 0⟩ := by
  rw [build, bind_eq_ok_iff, ← check_eq_ok_iff]
  constructor
  · rintro ⟨_, h, ht⟩
    exact ⟨h, (Except.ok.inj ht).symm⟩
  · rintro ⟨h, rfl⟩
    exact ⟨(), h, rfl⟩

/-- A new tracker is settled on no shapes. -/
theorem settled_of_build {settings : Settings S} (h : build settings phase = .ok t) :
    t.Settled settings.cellSize phase [] := by
  obtain ⟨-, rfl⟩ := build_eq_ok_iff.1 h
  refine ⟨Grid.holds_empty _, rfl, Contacts.current_new, fun p => iff_of_false ?_ ?_⟩
  · exact Std.ExtTreeMap.not_mem_empty
  · rintro ⟨a, -, ha, -⟩
    exact absurd ha nofun

/-- If a turn does not fail, either a listener has joined, or it is a round with some way of testing
    the candidates. -/
theorem take_ok_cases {turn : Turn ι S} {round : Option (Round ι S)}
    (ht : t.take turn = .ok (t', round)) :
    (∃ listener, t' = t.listen listener ∧ round = none) ∨
    ∃ test updates report, Finds test ∧ t.tickWith test updates = .ok (t', report) ∧
      round = some ⟨updates, report⟩ := by
  cases turn with
  | listen listener =>
    obtain ⟨rfl, rfl⟩ := Prod.mk.inj (Except.ok.inj ht)
    exact .inl ⟨listener, rfl, rfl⟩
  | tick updates =>
    obtain ⟨⟨t₁, report⟩, ht', heq⟩ := map_eq_ok_iff.1 ht
    obtain ⟨rfl, rfl⟩ := Prod.mk.inj heq
    exact .inr ⟨List.filter, updates, report, finds_filter, ht', rfl⟩
  | tickParallel schedule updates =>
    obtain ⟨⟨t₁, report⟩, ht', heq⟩ := map_eq_ok_iff.1 ht
    obtain ⟨rfl, rfl⟩ := Prod.mk.inj heq
    exact .inr ⟨schedule.run, updates, report, finds_schedule schedule, ht', rfl⟩

/-- One turn, whether it fails or not. -/
theorem Settled.after (h : t.Settled cellSize phase latest) (turn : Turn ι S) :
    (t.after turn).Settled cellSize phase (((t.round? turn).map (·.updates)).getD latest) := by
  rw [Tracker.after, round?]
  cases ht : t.take turn with
  | error => exact h
  | ok result =>
    obtain ⟨t', round⟩ := result
    rcases take_ok_cases ht with ⟨listener, rfl, rfl⟩ | ⟨test, updates, report, htest, ht', rfl⟩
    · exact ⟨h.holds, h.phase_eq, h.current, h.mem_contacts⟩
    · exact h.tickWith htest ht'

/-- Any number of turns. The tracker is settled on the shapes of the latest round that did not fail.
    -/
theorem Settled.run (h : t.Settled cellSize phase latest) (turns : List (Turn ι S)) :
    (t.run turns).Settled cellSize phase (((t.history turns).map (·.updates)).getLastD latest) := by
  rw [Tracker.run]
  induction turns generalizing t latest with
  | nil => exact h
  | cons turn turns ih =>
    have hrest := ih (h.after turn)
    rw [history, List.map_append]
    cases hround : t.round? turn with
    | none =>
      rw [hround] at hrest
      exact hrest
    | some round =>
      -- If no other round follows, this one is the latest.
      rw [hround] at hrest
      rw [Option.toList_some, List.map_singleton, List.singleton_append, List.getLastD_cons]
      exact hrest

/-! ## Numbers of rounds -/

/-- A round that does not fail counts, for the tracker and for its contacts. -/
theorem Settled.rounds_tickWith (h : t.Settled cellSize phase latest)
    (ht : t.tickWith test updates = .ok (t', report)) :
    t'.rounds = t.rounds + 1 ∧ t'.contacts.round = t.contacts.round + 1 := by
  obtain ⟨g, -, heq⟩ := tickWith_eq_ok_iff.1 ht
  obtain ⟨rfl, -⟩ := Prod.mk.inj heq
  exact ⟨rfl, (h.current.counted _).round_eq⟩

/-- A turn counts if it is a round that does not fail. -/
theorem Settled.rounds_after (h : t.Settled cellSize phase latest) (turn : Turn ι S) :
    (t.after turn).rounds = t.rounds + (t.round? turn).toList.length ∧
      (t.after turn).contacts.round = t.contacts.round + (t.round? turn).toList.length := by
  rw [Tracker.after, round?]
  cases ht : t.take turn with
  | error => exact ⟨rfl, rfl⟩
  | ok result =>
    obtain ⟨t', round⟩ := result
    rcases take_ok_cases ht with ⟨listener, rfl, rfl⟩ | ⟨test, updates, report, -, ht', rfl⟩
    · exact ⟨rfl, rfl⟩
    · exact h.rounds_tickWith ht'

/-- The rounds that do not fail are counted. -/
theorem Settled.rounds_run (h : t.Settled cellSize phase latest) (turns : List (Turn ι S)) :
    (t.run turns).rounds = t.rounds + (t.history turns).length ∧
      (t.run turns).contacts.round = t.contacts.round + (t.history turns).length := by
  rw [Tracker.run]
  induction turns generalizing t latest with
  | nil => exact ⟨rfl, rfl⟩
  | cons turn turns ih =>
    obtain ⟨hrounds, hround⟩ := h.rounds_after turn
    obtain ⟨hrounds', hround'⟩ := ih (h.after turn)
    rw [history, List.length_append, ← Nat.add_assoc, ← Nat.add_assoc, ← hrounds, ← hround]
    exact ⟨hrounds', hround'⟩

/-- For as long as fewer than `2 ^ 64` rounds have not failed, their number is a 64-bit word, and so
    are the numbers that the contacts keep. -/
theorem fits_run {settings : Settings S} (h : build settings phase = .ok t)
    (turns : List (Turn ι S)) (hlt : (t.history turns).length < UInt64.size) :
    (t.run turns).rounds < UInt64.size ∧ (t.run turns).contacts.Fits := by
  have hnew := settled_of_build h
  obtain ⟨-, rfl⟩ := build_eq_ok_iff.1 h
  obtain ⟨hrounds, hround⟩ := hnew.rounds_run turns
  simp only [Contacts.new, Nat.zero_add] at hrounds hround
  exact ⟨hrounds ▸ hlt, (hnew.run turns).current.fits (hround ▸ hlt)⟩

/-! ## The round after a run -/

/-- After any run, a round does not fail if all shapes in its list can be placed. It follows on the
    latest round of the run that did not fail. -/
theorem tick_run {settings : Settings S} (h : build settings phase = .ok t)
    (turns : List (Turn ι S)) (hu : Placeable settings.cellSize updates) :
    ∃ t' report, (t.run turns).tick updates = .ok (t', report) ∧
      IsRound settings.cellSize phase (t.latest turns) updates (t.run turns) t' report := by
  have hold := (settled_of_build h).run turns
  obtain ⟨t', report, ht⟩ := hold.exists_tickWith hu
  exact ⟨t', report, ht, hold.isRound finds_filter ht⟩

/-- Two of three disks overlap. Then a round fails, as a radius is negative, and in the next one a
    disk is missing and another is given twice. -/
theorem tick_run_departed :
    let t : Tracker UInt32 ℚ := ⟨.empty 10, .new, .radiusOverlap, .new, [], 0⟩
    let disk (x r : ℚ) : Shape ℚ := { position := ⟨x, 0⟩, extent := .disk r }
    let turns : List (Turn UInt32 ℚ) := [.listen .all,
      .tickParallel (.even 1) [(1, disk 0 3), (2, disk 4 2), (3, disk 30 5)],
      .tick [(1, disk 0 (-1))]]
    let updates : List (Update UInt32 ℚ) := [(2, disk 0 1), (3, disk 9 5), (2, disk 4 2)]
    build { cellSize := (10 : ℚ) } .radiusOverlap = .ok t ∧ ∃ t' report,
      (t.run turns).tick updates = .ok (t', report) ∧
        IsRound 10 .radiusOverlap (t.latest turns) updates (t.run turns) t' report := by
  have h : build { cellSize := (10 : ℚ) } .radiusOverlap =
      .ok (⟨.empty 10, .new, .radiusOverlap, .new, [], 0⟩ : Tracker UInt32 ℚ) :=
    build_eq_ok_iff.2 ⟨by decide +kernel, rfl⟩
  exact ⟨h, tick_run h _ (by decide +kernel)⟩

end Tracker

end Broadphase
