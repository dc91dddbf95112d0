import Broadphase.Proofs.Region.Covering
import Mathlib.Tactic.Linarith

/-!
# The reach of a narrow phase

A narrow phase keeps to its reach if the bounding boxes of the objects that it
confirms are no further apart on any axis (`NarrowPhase.Bounded`). With exact
scalars, all narrow phases of the library do (`Provided.bounded`).

They compare squares of distances. The distance is at least its part along an
axis (`abs_le_of_square_add_square_le`), and that part is what is left of the
gap between the boxes when the extents of the objects are taken off:

* `Shape.gapLE_of_distance`: between two centres;
* `Bounds.gapLE_of_reachedBy`: between a centre and the nearest point of a box.
-/

namespace Broadphase

namespace NarrowPhase

variable {ι S : Type} [Handle ι] [Scalar S]

/-- The narrow phases of the library. -/
inductive Provided : NarrowPhase ι S → Prop
  | radiusOverlap : Provided radiusOverlap
  | boundsOverlap : Provided boundsOverlap
  | shapeOverlap : Provided shapeOverlap
  | withinRange (range : S) : Provided (withinRange range)

end NarrowPhase

variable {ι K : Type} [Handle ι] [Field K] [LinearOrder K] [FloorRing K]

/-- A narrow phase confirms valid shapes only if their bounding boxes are at most its reach apart on
    each axis. -/
def NarrowPhase.Bounded (phase : NarrowPhase ι K) : Prop :=
  ∀ p (a b : Shape K), a.isValid → b.isValid → phase.confirms p a b →
    a.bounds.GapLE phase.reach b.bounds

variable [IsStrictOrderedRing K] {gap : K}

/-! ## Lengths -/

/-- Neither leg is longer than the hypotenuse. -/
theorem abs_le_of_square_add_square_le {x y r : K} (hr : 0 ≤ r)
    (h : Scalar.square x + Scalar.square y ≤ Scalar.square r) : |x| ≤ r ∧ |y| ≤ r := by
  rw [Scalar.square_exact, Scalar.square_exact, Scalar.square_exact] at h
  have hx : 0 ≤ x * x := mul_self_nonneg x
  have hy : 0 ≤ y * y := mul_self_nonneg y
  rw [← abs_of_nonneg hr, abs_le_iff_mul_self_le, abs_le_iff_mul_self_le]
  exact ⟨by linarith, by linarith⟩

namespace Bounds

theorem GapLE.symm {a b : Bounds K} (hgap : 0 ≤ gap) (h : a.GapLE gap b) : b.GapLE gap a := by
  rw [GapLE, axisGap_le_iff hgap, axisGap_le_iff hgap] at h ⊢
  exact ⟨h.1.symm, h.2.symm⟩

omit [IsStrictOrderedRing K] in
/-- The nearest point of a box is in the box. -/
theorem contains_closestPoint {b : Bounds K} (hx : b.lower.x ≤ b.upper.x)
    (hy : b.lower.y ≤ b.upper.y) (p : Point K) : b.Contains (b.closestPoint p) := by
  simp only [Contains, closestPoint, Scalar.smaller_exact, Scalar.larger_exact]
  exact ⟨le_min (le_max_right _ _) hx, le_min (le_max_right _ _) hy, min_le_right _ _,
    min_le_right _ _⟩

/-- A disk that reaches a box when it grows by `gap` is at most so far away from it. -/
theorem gapLE_of_reachedBy {b : Bounds K} {p : Point K} {r : K} (hx : b.lower.x ≤ b.upper.x)
    (hy : b.lower.y ≤ b.upper.y) (hr : 0 ≤ r) (hgap : 0 ≤ gap) (h : b.ReachedBy p (r + gap)) :
    (⟨⟨p.x - r, p.y - r⟩, ⟨p.x + r, p.y + r⟩⟩ : Bounds K).GapLE gap b := by
  obtain ⟨hlx, hly, hux, huy⟩ := contains_closestPoint hx hy p
  obtain ⟨hdx, hdy⟩ := abs_le_of_square_add_square_le (by linarith) h
  rw [abs_le] at hdx hdy
  rw [GapLE, axisGap_le_iff hgap, axisGap_le_iff hgap]
  exact ⟨⟨by linarith, by linarith⟩, by linarith, by linarith⟩

end Bounds

/-! ## Shapes -/

namespace Shape

variable {a b : Shape K}

omit [IsStrictOrderedRing K] in
theorem nonneg_of_isValid (h : a.isValid) : 0 ≤ a.extent.halfSize.x ∧ 0 ≤ a.extent.halfSize.y := by
  simp only [isValid, Extent.isValid, Bool.and_eq_true, decide_eq_true_eq] at h
  exact ⟨h.2.1.2, h.2.2⟩

omit [IsStrictOrderedRing K] in
/-- The disk that an object is read as does not leave its bounding box. -/
theorem radius_le (a : Shape K) :
    a.extent.radius ≤ a.extent.halfSize.x ∧ a.extent.radius ≤ a.extent.halfSize.y := by
  cases a.extent with
  | disk r => exact ⟨le_rfl, le_rfl⟩
  | box hw hh =>
    rw [Extent.radius, Scalar.smaller_exact]
    exact ⟨min_le_left _ _, min_le_right _ _⟩

omit [IsStrictOrderedRing K] in
theorem radius_nonneg (h : a.isValid) : 0 ≤ a.extent.radius := by
  obtain ⟨hx, hy⟩ := nonneg_of_isValid h
  cases hext : a.extent with
  | disk r => rwa [hext] at hx
  | box hw hh =>
    rw [hext] at hx hy
    rw [Extent.radius, Scalar.smaller_exact]
    exact le_min hx hy

/-- The box around a valid shape has its corners the right way around. -/
theorem bounds_ordered (h : a.isValid) :
    a.bounds.lower.x ≤ a.bounds.upper.x ∧ a.bounds.lower.y ≤ a.bounds.upper.y := by
  obtain ⟨hx, hy⟩ := nonneg_of_isValid h
  simp only [bounds]
  exact ⟨by linarith, by linarith⟩

/-- Two disks that do not leave the bounding boxes are at most so far apart. -/
theorem gapLE_of_distance (ha : a.isValid) (hb : b.isValid) (hgap : 0 ≤ gap)
    (h : a.position.distanceSquared b.position ≤
      Scalar.square (a.extent.radius + b.extent.radius + gap)) :
    a.bounds.GapLE gap b.bounds := by
  have hra := radius_nonneg ha
  have hrb := radius_nonneg hb
  obtain ⟨hax, hay⟩ := a.radius_le
  obtain ⟨hbx, hby⟩ := b.radius_le
  -- Along each axis, the centres are at most the radii and the gap apart.
  obtain ⟨hx, hy⟩ := abs_le_of_square_add_square_le (by linarith) h
  rw [abs_le] at hx hy
  rw [Bounds.GapLE, Bounds.axisGap_le_iff hgap, Bounds.axisGap_le_iff hgap]
  simp only [bounds]
  exact ⟨⟨by linarith, by linarith⟩, by linarith, by linarith⟩

/-- Shapes are at least as far apart as their boxes. -/
theorem gapLE_of_within (ha : a.isValid) (hb : b.isValid) (hgap : 0 ≤ gap)
    (h : Within gap a b) : a.bounds.GapLE gap b.bounds := by
  obtain ⟨p, extent, groups⟩ := a
  obtain ⟨p', extent', groups'⟩ := b
  cases extent with
  | disk r => cases extent' with
    | disk r' => exact gapLE_of_distance ha hb hgap h
    | box =>
      obtain ⟨hx, hy⟩ := bounds_ordered hb
      exact Bounds.gapLE_of_reachedBy hx hy (radius_nonneg ha) hgap h
  | box => cases extent' with
    | disk r' =>
      obtain ⟨hx, hy⟩ := bounds_ordered ha
      exact (Bounds.gapLE_of_reachedBy hx hy (radius_nonneg hb) hgap h).symm hgap
    | box =>
      -- The test is about the gaps themselves.
      obtain ⟨hx, hy⟩ := abs_le_of_square_add_square_le hgap h
      exact ⟨(le_abs_self _).trans hx, (le_abs_self _).trans hy⟩

end Shape

/-! ## Narrow phases -/

namespace NarrowPhase

theorem bounded_withinRange {range : K} (h : 0 ≤ range) :
    (withinRange range : NarrowPhase ι K).Bounded := by
  intro p a b ha hb hconf
  exact Shape.gapLE_of_within ha hb h (of_decide_eq_true hconf)

theorem bounded_radiusOverlap : (radiusOverlap : NarrowPhase ι K).Bounded := by
  intro p a b ha hb hconf
  change a.bounds.GapLE 0 b.bounds
  refine Shape.gapLE_of_distance ha hb le_rfl ?_
  rw [add_zero]
  exact of_decide_eq_true hconf

theorem bounded_boundsOverlap : (boundsOverlap : NarrowPhase ι K).Bounded := by
  intro p a b _ _ hconf
  obtain ⟨hx, hy, hx', hy'⟩ := of_decide_eq_true hconf
  change a.bounds.GapLE 0 b.bounds
  rw [Bounds.GapLE, Bounds.axisGap_le_iff le_rfl, Bounds.axisGap_le_iff le_rfl]
  simp only [add_zero]
  exact ⟨⟨hx, hx'⟩, hy, hy'⟩

/-- The narrow phases of the library keep to their reach, unless it is negative. -/
theorem Provided.bounded {phase : NarrowPhase ι K} (h : phase.Provided) (hreach : 0 ≤ phase.reach) :
    phase.Bounded := by
  cases h with
  | radiusOverlap => exact bounded_radiusOverlap
  | boundsOverlap => exact bounded_boundsOverlap
  | shapeOverlap => exact bounded_withinRange le_rfl
  | withinRange range => exact bounded_withinRange hreach

end NarrowPhase

end Broadphase
