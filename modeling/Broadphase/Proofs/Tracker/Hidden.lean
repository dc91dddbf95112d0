import Broadphase.Proofs.Region.Dilation
import Broadphase.Proofs.Tracker.BruteForce
import Broadphase.Scalar.Floating

/-!
# Hidden pairs

A tracker asks its narrow phase only about objects in cells that are the same or
adjacent. With exact scalars that is enough, as the reach of the narrow phase is
at most the cell size. But if distances are rounded, it may confirm objects that
are further apart than its reach, with a whole cell between them. Such a pair is
hidden from it by the grid, whatever is rounded, and no other pair is
(`Tracker.tick_started_iff`).

In single precision, pairs are hidden for two reasons:

* `withinRange_hidden`: a distance is rounded down to the range;
* `shapeOverlap_hidden`: the square of a distance is rounded down to zero.
-/

namespace Broadphase.Tracker

variable {ι S : Type} [Handle ι] [Scalar S] {phase : NarrowPhase ι S} {t : Tracker ι S}
  {updates : List (Update ι S)}

theorem not_interacting_nil {cellSize : S} {p : Pair ι} :
    ¬ Interacting cellSize phase (lastShape? []) p := by
  rintro ⟨a, -, ha, -⟩
  exact absurd ha nofun

/-- The first round of a tracker. -/
theorem Settled.mem_started_iff {cellSize : S} {t' : Tracker ι S} {report : Report ι}
    (h : t.Settled cellSize phase []) (hnodup : (updates.map (·.1)).Nodup)
    (ht : t.tick updates = .ok (t', report)) (p : Pair ι) : p ∈ report.changes.started ↔
      ∃ a b, (p.lo, a) ∈ updates ∧ (p.hi, b) ∈ updates ∧ a.Near cellSize b ∧
        a.groups.shares b.groups ∧ phase.confirms p a b := by
  rw [(h.isRound finds_filter ht).between.mem_started, and_iff_left not_interacting_nil]
  simp only [Interacting, lastShape?_eq_some_iff hnodup]

/-- Whatever is rounded, the first round of a tracker finds the pairs of objects that share a group,
    are confirmed, and are at most one cell apart. -/
theorem tick_started_iff {settings : Settings S} (h : build settings phase = .ok t)
    (hu : Placeable settings.cellSize updates) (hnodup : (updates.map (·.1)).Nodup) :
    ∃ t' report, t.tick updates = .ok (t', report) ∧ Ascending report.changes.started ∧
      ∀ p, p ∈ report.changes.started ↔
        ∃ a b, (p.lo, a) ∈ updates ∧ (p.hi, b) ∈ updates ∧ a.Near settings.cellSize b ∧
          a.groups.shares b.groups ∧ phase.confirms p a b := by
  have hnew := settled_of_build h
  obtain ⟨t', report, ht⟩ : ∃ t' report, t.tick updates = .ok (t', report) :=
    hnew.exists_tickWith hu
  exact ⟨t', report, ht, (hnew.isRound finds_filter ht).between.ascending_started,
    hnew.mem_started_iff hnodup ht⟩

/-- Cells and a range of `1`, in single precision. One of three points is at most one cell away from
    each of the others. -/
theorem tick_started_iff_single :
    let settings : Settings Float32 := { cellSize := 1 }
    let t : Tracker UInt32 Float32 := ⟨.empty 1, .new, .withinRange 1, .new, [], 0⟩
    let point (x : Float32) : Shape Float32 := { position := ⟨x, 0.5⟩, extent := .point }
    let updates : List (Update UInt32 Float32) := [(2, point 1), (1, point (-1e-9)), (3, point 0.25)]
    build settings (.withinRange 1) = .ok t ∧
      ∃ t' report, t.tick updates = .ok (t', report) ∧ Ascending report.changes.started ∧
        ∀ p, p ∈ report.changes.started ↔
          ∃ a b, (p.lo, a) ∈ updates ∧ (p.hi, b) ∈ updates ∧ a.Near settings.cellSize b ∧
            a.groups.shares b.groups ∧ (NarrowPhase.withinRange 1).confirms p a b := by
  have h : build { cellSize := (1 : Float32) } (.withinRange 1) =
      .ok (⟨.empty 1, .new, .withinRange 1, .new, [], 0⟩ : Tracker UInt32 Float32) :=
    build_eq_ok_iff.2 ⟨by decide +kernel, rfl⟩
  exact ⟨h, tick_started_iff h (by decide +kernel) (by decide +kernel)⟩

/-- Two objects are hidden from the narrow phase if there is a cell between theirs. -/
theorem exists_not_mem_started {settings : Settings S} (h : build settings phase = .ok t)
    {p : Pair ι} {a b : Shape S} {c d : Cell} (ha : a.region? settings.cellSize = some (.single c))
    (hb : b.region? settings.cellSize = some (.single d)) (hfar : 1 < c.distance d) :
    ∃ t' report, t.tick [(p.lo, a), (p.hi, b)] = .ok (t', report) ∧ p ∉ report.changes.started := by
  have hnew := settled_of_build h
  have hu : Placeable settings.cellSize [(p.lo, a), (p.hi, b)] := by
    simp [Placeable, ha, hb]
  have hnodup : ([(p.lo, a), (p.hi, b)].map (·.1)).Nodup := by
    simp [p.lo_ne_hi]
  obtain ⟨t', report, ht⟩ : ∃ t' report, t.tick [(p.lo, a), (p.hi, b)] = .ok (t', report) :=
    hnew.exists_tickWith hu
  refine ⟨t', report, ht, fun hp => hfar.not_ge ?_⟩
  obtain ⟨a', b', ha', hb', ⟨r, r', hr, hr', c', hc, d', hd, hnear⟩, -⟩ :=
    (hnew.mem_started_iff hnodup ht p).1 hp
  -- No handle is given twice, so these are the two objects and their cells.
  have hlo : (p.lo, a) ∈ [(p.lo, a), (p.hi, b)] := .head _
  have hhi : (p.hi, b) ∈ [(p.lo, a), (p.hi, b)] := .tail _ (.head _)
  obtain rfl : a' = a := congrArg Prod.snd (List.inj_on_of_nodup_map hnodup ha' hlo rfl)
  obtain rfl : b' = b := congrArg Prod.snd (List.inj_on_of_nodup_map hnodup hb' hhi rfl)
  obtain rfl := Option.some.inj (ha.symm.trans hr)
  obtain rfl := Option.some.inj (hb.symm.trans hr')
  rwa [← Region.mem_single.1 hc, ← Region.mem_single.1 hd]

/-- Two points that are further apart than the range, but by so little that the narrow phase confirms
    them. -/
theorem withinRange_hidden :
    let settings : Settings Float32 := { cellSize := 1 }
    let t : Tracker UInt32 Float32 := ⟨.empty 1, .new, .withinRange 1, .new, [], 0⟩
    let p : Pair UInt32 := ⟨1, 2, by decide⟩
    let updates : List (Update UInt32 Float32) := [
      (p.lo, { position := ⟨-1e-9, 0.5⟩, extent := .point }),
      (p.hi, { position := ⟨1, 0.5⟩, extent := .point })]
    build settings (.withinRange 1) = .ok t ∧ p ∈ bruteForce (.withinRange 1) updates ∧
      ∃ t' report, t.tick updates = .ok (t', report) ∧ p ∉ report.changes.started := by
  have h : build { cellSize := (1 : Float32) } (.withinRange 1) =
      .ok (⟨.empty 1, .new, .withinRange 1, .new, [], 0⟩ : Tracker UInt32 Float32) :=
    build_eq_ok_iff.2 ⟨by decide +kernel, rfl⟩
  have hlo : Shape.region? (1 : Float32) { position := ⟨-1e-9, 0.5⟩, extent := .point } =
      some (.single ⟨-1, 0⟩) := by decide +kernel
  have hhi : Shape.region? (1 : Float32) { position := ⟨1, 0.5⟩, extent := .point } =
      some (.single ⟨1, 0⟩) := by decide +kernel
  exact ⟨h, by decide +kernel, exists_not_mem_started h hlo hhi (by decide)⟩

/-- Two points so close to each other that the narrow phase takes them for one, and cells that are
    smaller still. -/
theorem shapeOverlap_hidden :
    let settings : Settings Float32 := { cellSize := 1e-30 }
    let t : Tracker UInt32 Float32 := ⟨.empty 1e-30, .new, .shapeOverlap, .new, [], 0⟩
    let p : Pair UInt32 := ⟨1, 2, by decide⟩
    let updates : List (Update UInt32 Float32) := [
      (p.lo, { position := ⟨0, 0⟩, extent := .point }),
      (p.hi, { position := ⟨4e-30, 0⟩, extent := .point })]
    build settings .shapeOverlap = .ok t ∧ p ∈ bruteForce .shapeOverlap updates ∧
      ∃ t' report, t.tick updates = .ok (t', report) ∧ p ∉ report.changes.started := by
  have h : build { cellSize := (1e-30 : Float32) } .shapeOverlap =
      .ok (⟨.empty 1e-30, .new, .shapeOverlap, .new, [], 0⟩ : Tracker UInt32 Float32) :=
    build_eq_ok_iff.2 ⟨by decide +kernel, rfl⟩
  have hlo : Shape.region? (1e-30 : Float32) { position := ⟨0, 0⟩, extent := .point } =
      some (.single ⟨0, 0⟩) := by decide +kernel
  have hhi : Shape.region? (1e-30 : Float32) { position := ⟨4e-30, 0⟩, extent := .point } =
      some (.single ⟨4, 0⟩) := by decide +kernel
  exact ⟨h, by decide +kernel, exists_not_mem_started h hlo hhi (by decide)⟩

end Broadphase.Tracker
