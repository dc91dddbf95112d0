import Broadphase.Proofs.Tracker.BruteForce

/-!
# Rounding

The grid and the test for overlapping bounding boxes compute these boxes in the
same way. So whatever is rounded, if two boxes overlap as computed, then so do
the regions that cover them, as long as scalars are monotone
(`Region.exists_mem_of_intersects`). A tracker with that test then misses no pair
(`mem_contacts_iff_intersects`).
-/

namespace Broadphase

variable {ι S : Type} [Handle ι] [Scalar S] {cellSize : S}

/-- Objects with overlapping bounding boxes are in the same cell. -/
theorem Shape.near_of_intersects {a b : Shape S} (hS : Scalar.Monotone S)
    (hfinite : Scalar.isFinite cellSize) (hcell : 0 < cellSize)
    (ha : (a.region? cellSize).isSome) (hb : (b.region? cellSize).isSome)
    (h : a.bounds.Intersects b.bounds) : a.Near cellSize b := by
  obtain ⟨r, hr⟩ := Option.isSome_iff_exists.1 ha
  obtain ⟨r', hr'⟩ := Option.isSome_iff_exists.1 hb
  obtain ⟨-, hcov⟩ := region?_eq_some_iff.1 hr
  obtain ⟨-, hcov'⟩ := region?_eq_some_iff.1 hr'
  obtain ⟨c, hc, hc'⟩ := Region.exists_mem_of_intersects hS hfinite hcell hcov hcov' h
  exact ⟨r, r', hr, hr', c, hc, c, hc', Cell.distance_le_one_iff.2 (.inl rfl)⟩

namespace Tracker

/-- Rounding makes no tracker miss a pair. After any run, the pairs that interact are those of
    objects that share a group and whose bounding boxes overlap, as they are computed. -/
theorem mem_contacts_iff_intersects {settings : Settings S} {t : Tracker ι S}
    (hS : Scalar.Monotone S) (h : build settings .boundsOverlap = .ok t) (turns : List (Turn ι S))
    {updates : List (Update ι S)} (hu : Placeable settings.cellSize updates)
    (hnodup : (updates.map (·.1)).Nodup) :
    ∃ t' report, (t.run turns).tick updates = .ok (t', report) ∧
      ∀ p, p ∈ t'.contacts ↔ ∃ a b, (p.lo, a) ∈ updates ∧ (p.hi, b) ∈ updates ∧
        a.groups.shares b.groups ∧ a.bounds.Intersects b.bounds := by
  obtain ⟨⟨-, -, hfinite, hcell⟩, -⟩ := build_eq_ok_iff.1 h
  obtain ⟨t', report, ht, hmem⟩ := ((settled_of_build h).run turns).tick_bruteForce hu hnodup
    fun p a b ha hb hconf =>
      Shape.near_of_intersects hS hfinite hcell ha hb (of_decide_eq_true hconf)
  refine ⟨t', report, ht, fun p => ?_⟩
  rw [hmem, mem_bruteForce]
  simp only [NarrowPhase.boundsOverlap, NarrowPhase.ofPredicate, decide_eq_true_eq]

/-- Cells of `0.07` and two boxes that touch, in two decimals: none of the quotients is exact. In
    the round before, one of them was a disk elsewhere, and a round has failed. -/
theorem mem_contacts_iff_intersects_inexact :
    let t : Tracker UInt32 Hundredths := ⟨.empty ⟨7⟩, .new, .boundsOverlap, .new, [], 0⟩
    let turns : List (Turn UInt32 Hundredths) := [
      .tick [(2, { position := ⟨⟨90⟩, ⟨0⟩⟩, extent := .disk ⟨5⟩ })],
      .tick [(1, { position := ⟨⟨0⟩, ⟨0⟩⟩, extent := .disk ⟨-5⟩ })]]
    let updates : List (Update UInt32 Hundredths) := [
      (2, { position := ⟨⟨-20⟩, ⟨31⟩⟩, extent := .box ⟨13⟩ ⟨1⟩ }),
      (1, { position := ⟨⟨-40⟩, ⟨33⟩⟩, extent := .box ⟨7⟩ ⟨1⟩ })]
    Scalar.Monotone Hundredths ∧
      build { cellSize := (⟨7⟩ : Hundredths) } .boundsOverlap = .ok t ∧ ∃ t' report,
      (t.run turns).tick updates = .ok (t', report) ∧
        ∀ p, p ∈ t'.contacts ↔ ∃ a b, (p.lo, a) ∈ updates ∧ (p.hi, b) ∈ updates ∧
          a.groups.shares b.groups ∧ a.bounds.Intersects b.bounds := by
  have h : build { cellSize := (⟨7⟩ : Hundredths) } .boundsOverlap =
      .ok (⟨.empty ⟨7⟩, .new, .boundsOverlap, .new, [], 0⟩ : Tracker UInt32 Hundredths) :=
    build_eq_ok_iff.2 ⟨by decide, rfl⟩
  exact ⟨Hundredths.monotone, h, mem_contacts_iff_intersects Hundredths.monotone h _
    (by decide +kernel) (by decide)⟩

end Tracker

end Broadphase
