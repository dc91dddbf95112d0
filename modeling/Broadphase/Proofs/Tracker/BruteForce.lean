import Broadphase.Proofs.NarrowPhase.Reach
import Broadphase.Proofs.Tracker.Rounds

/-!
# Brute force

Without a grid, the pairs that interact are found by asking the narrow phase
about every two objects (`bruteForce`). With exact scalars, a tracker finds the
same pairs, though it only asks about objects in cells that are the same or
adjacent (`mem_contacts_iff_mem_bruteForce`). No tracker is built for a narrow
phase whose reach exceeds the cell size, so objects that it confirms are close
enough to each other for that (`Shape.near_of_confirms`).
-/

namespace Broadphase

section BruteForce

variable {ι S : Type} [Handle ι] [Scalar S] {phase : NarrowPhase ι S} {p : Pair ι}
  {u v : Update ι S} {updates : List (Update ι S)}

/-- The pair of two objects, if their handles are in order, and they share a group and are
    confirmed. -/
def confirmed? (phase : NarrowPhase ι S) (u v : Update ι S) : Option (Pair ι) :=
  if h : compare u.1 v.1 = .lt then
    let p : Pair ι := ⟨u.1, v.1, h⟩
    if u.2.groups.shares v.2.groups && phase.confirms p u.2 v.2 then some p else none
  else none

/-- All pairs of objects that share a group and are confirmed. -/
def bruteForce (phase : NarrowPhase ι S) (updates : List (Update ι S)) : List (Pair ι) :=
  updates.flatMap fun u => updates.filterMap (confirmed? phase u)

omit [Scalar S] in
/-- Two updates in the order of their handles make a pair, if it is confirmed. -/
theorem confirmed?_eq_some_iff : confirmed? phase u v = some p ↔ (u.1 = p.lo ∧ v.1 = p.hi) ∧
    u.2.groups.shares v.2.groups ∧ phase.confirms p u.2 v.2 := by
  obtain ⟨a, s⟩ := u
  obtain ⟨b, s'⟩ := v
  obtain ⟨lo, hi, hlt⟩ := p
  rw [confirmed?]
  constructor
  · intro h
    split at h
    case isTrue =>
      simp only [Option.ite_none_right_eq_some, Bool.and_eq_true, Option.some.injEq,
        Pair.mk.injEq] at h
      obtain ⟨⟨hshares, hconf⟩, rfl, rfl⟩ := h
      exact ⟨⟨rfl, rfl⟩, hshares, hconf⟩
    case isFalse => cases h
  · rintro ⟨⟨rfl, rfl⟩, hshares, hconf⟩
    rw [dif_pos hlt]
    exact if_pos (Bool.and_eq_true_iff.2 ⟨hshares, hconf⟩)

omit [Scalar S] in
/-- The pairs that are found by looking at all of them. -/
theorem mem_bruteForce : p ∈ bruteForce phase updates ↔
    ∃ a b, (p.lo, a) ∈ updates ∧ (p.hi, b) ∈ updates ∧
      a.groups.shares b.groups ∧ phase.confirms p a b := by
  simp only [bruteForce, List.mem_flatMap, List.mem_filterMap, confirmed?_eq_some_iff]
  constructor
  · rintro ⟨⟨_, a⟩, ha, ⟨_, b⟩, hb, ⟨rfl, rfl⟩, h⟩
    exact ⟨a, b, ha, hb, h⟩
  · rintro ⟨a, b, ha, hb, h⟩
    exact ⟨_, ha, _, hb, ⟨rfl, rfl⟩, h⟩

omit [Scalar S] in
/-- If no handle is given twice, each shape is the last one. -/
theorem lastShape?_eq_some_iff (h : (updates.map (·.1)).Nodup) {id : ι} {shape : Shape S} :
    lastShape? updates id = some shape ↔ (id, shape) ∈ updates := by
  induction updates with
  | nil => exact iff_of_false nofun List.not_mem_nil
  | cons u updates ih =>
    obtain ⟨hu, hnodup⟩ := List.nodup_cons.1 h
    obtain ⟨a, s⟩ := u
    rw [lastShape?_cons, List.mem_cons, ← ih hnodup, Prod.mk.injEq]
    by_cases ha : id = a
    · subst ha
      have hlast : lastShape? updates id = none := by
        rwa [← Option.not_isSome_iff_eq_none, isSome_lastShape?]
      simp only [hlast, Option.none_or, if_true, Option.some.injEq, true_and, reduceCtorEq,
        or_false, eq_comm]
    · simp only [ha, if_false, Option.or_none, false_and, false_or]

/-- A tracker finds what brute force finds, if the narrow phase confirms only objects that are close
    to each other. -/
theorem Tracker.Settled.tick_bruteForce {t : Tracker ι S} {cellSize : S}
    {latest : List (Update ι S)} (h : t.Settled cellSize phase latest)
    (hu : Placeable cellSize updates) (hnodup : (updates.map (·.1)).Nodup)
    (hnear : ∀ p (a b : Shape S), (a.region? cellSize).isSome → (b.region? cellSize).isSome →
      phase.confirms p a b → a.Near cellSize b) :
    ∃ t' report, t.tick updates = .ok (t', report) ∧
      ∀ p, p ∈ t'.contacts ↔ p ∈ bruteForce phase updates := by
  obtain ⟨t', report, ht⟩ := h.exists_tickWith hu
  refine ⟨t', report, ht, fun p => ((h.tickWith finds_filter ht).mem_contacts p).trans ?_⟩
  rw [mem_bruteForce]
  simp only [Interacting, lastShape?_eq_some_iff hnodup]
  constructor
  · rintro ⟨a, b, ha, hb, -, htest⟩
    exact ⟨a, b, ha, hb, htest⟩
  · rintro ⟨a, b, ha, hb, htest⟩
    exact ⟨a, b, ha, hb, hnear p a b (hu _ ha) (hu _ hb) htest.2, htest⟩

end BruteForce

variable {ι K : Type} [Handle ι] [Field K] [LinearOrder K] [FloorRing K] [IsStrictOrderedRing K]
  {phase : NarrowPhase ι K} {p : Pair ι}

/-- Objects that a narrow phase confirms are close to each other, if its reach is at most the cell
    size. -/
theorem Shape.near_of_confirms {cellSize : K} {a b : Shape K} (hcell : 0 < cellSize)
    (hreach : 0 ≤ phase.reach) (hle : phase.reach ≤ cellSize) (hphase : phase.Bounded)
    (ha : (a.region? cellSize).isSome) (hb : (b.region? cellSize).isSome)
    (h : phase.confirms p a b) : a.Near cellSize b := by
  obtain ⟨r, hr⟩ := Option.isSome_iff_exists.1 ha
  obtain ⟨r', hr'⟩ := Option.isSome_iff_exists.1 hb
  obtain ⟨hvalid, hcov⟩ := region?_eq_some_iff.1 hr
  obtain ⟨hvalid', hcov'⟩ := region?_eq_some_iff.1 hr'
  exact ⟨r, r', hr, hr',
    Region.near_of_gap hcell hreach hle hcov hcov' (hphase p a b hvalid hvalid' h)⟩

namespace Tracker

/-- A tracker finds all pairs that interact, after any run: those that brute force finds. -/
theorem mem_contacts_iff_mem_bruteForce {settings : Settings K} {t : Tracker ι K}
    (h : build settings phase = .ok t) (hphase : phase.Provided ∨ phase.Bounded)
    (turns : List (Turn ι K)) {updates : List (Update ι K)}
    (hu : Placeable settings.cellSize updates) (hnodup : (updates.map (·.1)).Nodup) :
    ∃ t' report, (t.run turns).tick updates = .ok (t', report) ∧
      ∀ p, p ∈ t'.contacts ↔ p ∈ bruteForce phase updates := by
  obtain ⟨⟨⟨-, hreach⟩, hle, -, hcell⟩, -⟩ := build_eq_ok_iff.1 h
  have hbounded : phase.Bounded := hphase.elim (·.bounded hreach) id
  exact ((settled_of_build h).run turns).tick_bruteForce hu hnodup fun p a b ha hb =>
    Shape.near_of_confirms hcell hreach (not_lt.1 hle) hbounded ha hb

/-- A disk and a box that are as far apart as the range allows, and the range is as large as the
    cell size allows. In the round before, the disk was a point elsewhere. -/
theorem mem_contacts_iff_mem_bruteForce_tight :
    let t : Tracker UInt32 ℚ := ⟨.empty 2, .new, .withinRange 2, .new, [], 0⟩
    let updates : List (Update UInt32 ℚ) := [
      (7, { position := ⟨4, 1⟩, extent := .box 1 (1 / 2) }),
      (3, { position := ⟨0, 1⟩, extent := .disk 1 }),
      (5, { position := ⟨9, 9⟩, extent := .point })]
    build { cellSize := (2 : ℚ) } (.withinRange 2) = .ok t ∧ ∃ t' report,
      (t.run [.tick [(3, { position := ⟨9, 9⟩, extent := .point })]]).tick updates =
        .ok (t', report) ∧
      ∀ p, p ∈ t'.contacts ↔ p ∈ bruteForce (.withinRange 2) updates := by
  have h : build { cellSize := (2 : ℚ) } (.withinRange 2) =
      .ok (⟨.empty 2, .new, .withinRange 2, .new, [], 0⟩ : Tracker UInt32 ℚ) :=
    build_eq_ok_iff.2 ⟨by decide +kernel, rfl⟩
  exact ⟨h, mem_contacts_iff_mem_bruteForce h (.inl (.withinRange 2)) _ (by decide +kernel)
    (by decide)⟩

end Tracker

end Broadphase
