import Broadphase.Proofs.NarrowPhase.Reach
import Mathlib.Data.Rat.Floor
import Mathlib.Tactic.Positivity
import Mathlib.Tactic.Ring

/-!
# Narrow phases and points

An object is a set of points, a closed disk or a closed box (`Shape.Contains`),
and with exact scalars each narrow phase of the library decides something about
two such sets: whether they meet, or how near they come to each other
(`NarrowPhase.confirms_iff_exists_point`).

Distances are compared by their squares, as in the narrow phases themselves: an
ordered field need not have roots (`Point.Within`). What takes their place:

* `Point.within_add_iff`: two points are at most `d + e` apart exactly if some
  point is at most `d` away from one and at most `e` away from the other;
* `Bounds.reachedBy_iff`: no point of a box is nearer to a centre than the one
  found by clamping;
* `Bounds.gapSquared_le_iff`: the gaps between two boxes on the two axes are those
  between two points, one in each.
-/

namespace Broadphase

/-! ## Points -/

namespace Point

variable {K : Type} [Field K] [LinearOrder K]

/-- Two points are at most `d` apart. -/
def Within (d : K) (p q : Point K) : Prop := (q.x - p.x) ^ 2 + (q.y - p.y) ^ 2 ≤ d ^ 2

variable {p q r : Point K} {d e : K}

theorem within_comm : Within d p q ↔ Within d q p := by
  rw [Within, Within, sub_sq_comm q.x, sub_sq_comm q.y]

/-- With exact scalars, the distance of two points is compared through its square. -/
theorem distanceSquared_le_iff [FloorRing K] :
    p.distanceSquared q ≤ Scalar.square d ↔ Within d p q := by
  rw [distanceSquared, Scalar.square_exact, Scalar.square_exact, Scalar.square_exact, Within,
    sq, sq, sq]

variable [IsStrictOrderedRing K]

theorem within_zero_iff : Within 0 p q ↔ p = q := by
  obtain ⟨x, y⟩ := p
  obtain ⟨x', y'⟩ := q
  rw [Within, zero_pow two_ne_zero, Point.mk.injEq]
  constructor
  · intro h
    obtain ⟨hx, hy⟩ := (add_eq_zero_iff_of_nonneg (sq_nonneg (x' - x)) (sq_nonneg (y' - y))).1
      (h.antisymm (add_nonneg (sq_nonneg _) (sq_nonneg _)))
    exact ⟨(sub_eq_zero.1 (sq_eq_zero_iff.1 hx)).symm, (sub_eq_zero.1 (sq_eq_zero_iff.1 hy)).symm⟩
  · rintro ⟨rfl, rfl⟩
    simp

/-- The product of two vectors is at most that of their lengths. -/
theorem dot_le {x y x' y' : K} (hd : 0 ≤ d) (he : 0 ≤ e) (h : x ^ 2 + y ^ 2 ≤ d ^ 2)
    (h' : x' ^ 2 + y' ^ 2 ≤ e ^ 2) : x * x' + y * y' ≤ d * e := by
  refine le_of_sq_le_sq ?_ (mul_nonneg hd he)
  calc (x * x' + y * y') ^ 2
      ≤ (x * x' + y * y') ^ 2 + (x * y' - y * x') ^ 2 := le_add_of_nonneg_right (sq_nonneg _)
    _ = (x ^ 2 + y ^ 2) * (x' ^ 2 + y' ^ 2) := by ring
    _ ≤ d ^ 2 * e ^ 2 := mul_le_mul h h' (by positivity) (sq_nonneg d)
    _ = (d * e) ^ 2 := (mul_pow d e 2).symm

/-- Distances add up. -/
theorem Within.trans (hd : 0 ≤ d) (he : 0 ≤ e) (h : Within d p q) (h' : Within e q r) :
    Within (d + e) p r := by
  have hdot := dot_le hd he h h'
  calc (r.x - p.x) ^ 2 + (r.y - p.y) ^ 2
      = ((q.x - p.x) ^ 2 + (q.y - p.y) ^ 2) + ((r.x - q.x) ^ 2 + (r.y - q.y) ^ 2) +
          2 * ((q.x - p.x) * (r.x - q.x) + (q.y - p.y) * (r.y - q.y)) := by ring
    _ ≤ d ^ 2 + e ^ 2 + 2 * (d * e) := by
      have := add_le_add h h'
      linarith
    _ = (d + e) ^ 2 := by ring

/-- On the way from one point to another, there is one for every way to split their distance. -/
theorem Within.split (hd : 0 ≤ d) (he : 0 ≤ e) (h : Within (d + e) p r) :
    ∃ q, Within d p q ∧ Within e q r := by
  rcases (add_nonneg hd he).eq_or_lt with hzero | hpos
  · -- Both parts are zero, so any point of the two will do.
    obtain rfl : d = 0 := by linarith
    exact ⟨p, within_zero_iff.2 rfl, by rwa [zero_add] at h⟩
  · have hscale (t : K) : (t * (r.x - p.x)) ^ 2 + (t * (r.y - p.y)) ^ 2 ≤ (t * (d + e)) ^ 2 := by
      rw [mul_pow, mul_pow, mul_pow, ← mul_add]
      exact mul_le_mul_of_nonneg_left h (sq_nonneg t)
    -- The share of the way that belongs to the first part.
    let t := d / (d + e)
    have ht : t * (d + e) = d := div_mul_cancel₀ d hpos.ne'
    have ht' : (1 - t) * (d + e) = e := by rw [sub_mul, ht, one_mul, add_sub_cancel_left]
    refine ⟨⟨p.x + t * (r.x - p.x), p.y + t * (r.y - p.y)⟩, ?_, ?_⟩
    · rw [Within, ← ht, add_sub_cancel_left, add_sub_cancel_left]
      exact hscale t
    · have hrest (x y : K) : y - (x + t * (y - x)) = (1 - t) * (y - x) := by ring
      rw [Within, ← ht', hrest, hrest]
      exact hscale (1 - t)

/-- What is a sum of distances away can be reached in two steps. -/
theorem within_add_iff (hd : 0 ≤ d) (he : 0 ≤ e) :
    Within (d + e) p r ↔ ∃ q, Within d p q ∧ Within e q r :=
  ⟨Within.split hd he, fun ⟨_, h, h'⟩ => h.trans hd he h'⟩

/-- From one centre to another, the way is over a point of each disk. -/
theorem within_disks_iff {range : K} (hd : 0 ≤ d) (he : 0 ≤ e) (hrange : 0 ≤ range) :
    Within (d + e + range) p r ↔
      ∃ x y, p.Within d x ∧ r.Within e y ∧ x.Within range y := by
  rw [add_right_comm, within_add_iff (add_nonneg hd hrange) he]
  simp only [within_add_iff hd hrange, within_comm (p := r)]
  constructor
  · rintro ⟨y, ⟨x, hx, hxy⟩, hy⟩
    exact ⟨x, y, hx, hy, hxy⟩
  · rintro ⟨x, y, hx, hy, hxy⟩
    exact ⟨y, ⟨x, hx, hxy⟩, hy⟩

end Point

/-! ## Boxes -/

namespace Bounds

variable {K : Type} [Field K] [LinearOrder K] [FloorRing K] [IsStrictOrderedRing K]
  {a b : Bounds K} {p : Point K} {d : K}

/-- The corners of a box are the right way around. -/
def Ordered (b : Bounds K) : Prop := b.lower.x ≤ b.upper.x ∧ b.lower.y ≤ b.upper.y

/-- No coordinate of an interval is nearer to `x` than the one found by clamping. -/
theorem abs_clamp_sub_le {x y l u : K} (hl : l ≤ y) (hu : y ≤ u) :
    |Scalar.smaller (Scalar.larger x l) u - x| ≤ |y - x| := by
  rw [Scalar.smaller_exact, Scalar.larger_exact]
  rcases le_total x l with hx | hx
  · rw [max_eq_right hx, min_eq_left (hl.trans hu), abs_of_nonneg (by linarith),
      abs_of_nonneg (by linarith)]
    linarith
  rw [max_eq_left hx]
  rcases le_total x u with hx' | hx'
  · rw [min_eq_left hx', sub_self, abs_zero]
    exact abs_nonneg _
  · rw [min_eq_right hx', abs_of_nonpos (by linarith), abs_of_nonpos (by linarith)]
    linarith

/-- A disk reaches a box exactly if some point of the box is in the disk. -/
theorem reachedBy_iff (hb : b.Ordered) :
    b.ReachedBy p d ↔ ∃ q, b.Contains q ∧ p.Within d q := by
  rw [ReachedBy, Point.distanceSquared_le_iff]
  constructor
  · intro h
    exact ⟨_, contains_closestPoint hb.1 hb.2 p, h⟩
  · rintro ⟨q, ⟨hlx, hly, hux, huy⟩, h⟩
    exact (add_le_add (sq_le_sq.2 (abs_clamp_sub_le hlx hux))
      (sq_le_sq.2 (abs_clamp_sub_le hly huy))).trans h

/-- A disk that grows by `range` reaches a box exactly if some point of the disk is so near to one
    of the box. -/
theorem reachedBy_add_iff {r range : K} (hb : b.Ordered) (hr : 0 ≤ r) (hrange : 0 ≤ range) :
    b.ReachedBy p (r + range) ↔
      ∃ x y, p.Within r x ∧ b.Contains y ∧ x.Within range y := by
  rw [reachedBy_iff hb]
  simp only [Point.within_add_iff hr hrange]
  constructor
  · rintro ⟨y, hy, x, hx, hxy⟩
    exact ⟨x, y, hx, hy, hxy⟩
  · rintro ⟨x, y, hx, hy, hxy⟩
    exact ⟨y, hy, x, hx, hxy⟩

/-- The gap between two intervals is at most that between a coordinate in each. -/
theorem axisGap_le_abs_sub {l u l' u' x x' : K} (hl : l ≤ x) (hu : x ≤ u) (hl' : l' ≤ x')
    (hu' : x' ≤ u') : axisGap l u l' u' ≤ |x' - x| := by
  rw [axisGap_le_iff (abs_nonneg _)]
  have := le_abs_self (x' - x)
  have := neg_abs_le (x' - x)
  exact ⟨by linarith, by linarith⟩

/-- The gap between two intervals is that between the nearest coordinates. -/
theorem exists_abs_sub_eq_axisGap {l u l' u' : K} (h : l ≤ u) (h' : l' ≤ u') :
    ∃ x x', (l ≤ x ∧ x ≤ u) ∧ (l' ≤ x' ∧ x' ≤ u') ∧ |x' - x| = axisGap l u l' u' := by
  suffices hle : ∃ x x', (l ≤ x ∧ x ≤ u) ∧ (l' ≤ x' ∧ x' ≤ u') ∧ |x' - x| ≤ axisGap l u l' u' by
    obtain ⟨x, x', hx, hx', hgap⟩ := hle
    exact ⟨x, x', hx, hx', hgap.antisymm (axisGap_le_abs_sub hx.1 hx.2 hx'.1 hx'.2)⟩
  have hgap : axisGap l u l' u' = max (max (l' - u) (l - u')) 0 := by
    rw [axisGap, Scalar.larger_exact, Scalar.larger_exact]
  rw [hgap]
  -- Either one interval ends before the other begins, or the later beginning is in both.
  rcases lt_or_ge u l' with hlt | hle
  · refine ⟨u, l', ⟨h, le_rfl⟩, ⟨le_rfl, h'⟩, ?_⟩
    rw [abs_of_pos (sub_pos.2 hlt)]
    exact (le_max_left _ _).trans (le_max_left _ _)
  rcases lt_or_ge u' l with hlt' | hle'
  · refine ⟨l, u', ⟨le_rfl, h⟩, ⟨h', le_rfl⟩, ?_⟩
    rw [abs_sub_comm, abs_of_pos (sub_pos.2 hlt')]
    exact (le_max_right _ _).trans (le_max_left _ _)
  · refine ⟨max l l', max l l', ⟨le_max_left _ _, max_le h hle⟩, ⟨le_max_right _ _, max_le hle' h'⟩,
      ?_⟩
    rw [sub_self, abs_zero]
    exact le_max_right _ _

/-- Two boxes are at most `d` apart exactly if some points of them are. -/
theorem gapSquared_le_iff (ha : a.Ordered) (hb : b.Ordered) :
    a.gapSquared b ≤ Scalar.square d ↔
      ∃ p q, a.Contains p ∧ b.Contains q ∧ p.Within d q := by
  rw [gapSquared, Scalar.square_exact, Scalar.square_exact, Scalar.square_exact, ← sq, ← sq, ← sq]
  constructor
  · intro h
    obtain ⟨x, x', hx, hx', hgapx⟩ := exists_abs_sub_eq_axisGap ha.1 hb.1
    obtain ⟨y, y', hy, hy', hgapy⟩ := exists_abs_sub_eq_axisGap ha.2 hb.2
    refine ⟨⟨x, y⟩, ⟨x', y'⟩, ⟨hx.1, hy.1, hx.2, hy.2⟩, ⟨hx'.1, hy'.1, hx'.2, hy'.2⟩, ?_⟩
    rwa [← hgapx, ← hgapy, sq_abs, sq_abs] at h
  · rintro ⟨p, q, ⟨hlx, hly, hux, huy⟩, ⟨hlx', hly', hux', huy'⟩, h⟩
    have hnonneg (l u l' u' : K) : 0 ≤ axisGap l u l' u' := by
      rw [axisGap, Scalar.larger_exact]
      exact le_max_right _ _
    refine le_trans (add_le_add ?_ ?_) h
    · rw [← sq_abs (q.x - p.x)]
      exact pow_le_pow_left₀ (hnonneg _ _ _ _) (axisGap_le_abs_sub hlx hux hlx' hux') 2
    · rw [← sq_abs (q.y - p.y)]
      exact pow_le_pow_left₀ (hnonneg _ _ _ _) (axisGap_le_abs_sub hly huy hly' huy') 2

omit [IsStrictOrderedRing K] in
/-- Two boxes overlap exactly if they have a point in common. -/
theorem intersects_iff (ha : a.Ordered) (hb : b.Ordered) :
    a.Intersects b ↔ ∃ p, a.Contains p ∧ b.Contains p := by
  constructor
  · rintro ⟨hx, hy, hx', hy'⟩
    exact ⟨⟨max a.lower.x b.lower.x, max a.lower.y b.lower.y⟩,
      ⟨le_max_left _ _, le_max_left _ _, max_le ha.1 hx', max_le ha.2 hy'⟩,
      ⟨le_max_right _ _, le_max_right _ _, max_le hx hb.1, max_le hy hb.2⟩⟩
  · rintro ⟨p, ⟨hlx, hly, hux, huy⟩, hlx', hly', hux', huy'⟩
    exact ⟨hlx.trans hux', hly.trans huy', hlx'.trans hux, hly'.trans huy⟩

end Bounds

/-! ## Shapes -/

namespace Shape

variable {K : Type} [Field K] [LinearOrder K]

/-- The points of an object: those of a closed disk or of a closed box around its position. -/
def Contains (a : Shape K) (p : Point K) : Prop :=
  match a.extent with
  | .disk r => a.position.Within r p
  | .box hw hh => |p.x - a.position.x| ≤ hw ∧ |p.y - a.position.y| ≤ hh

variable [FloorRing K] [IsStrictOrderedRing K] {a b : Shape K} {c p : Point K} {range : K}

theorem contains_box_iff {hw hh : K} {groups : Groups} :
    (⟨c, .box hw hh, groups⟩ : Shape K).Contains p ↔
      (⟨c, .box hw hh, groups⟩ : Shape K).bounds.Contains p := by
  simp only [Contains, Bounds.Contains, bounds, Extent.halfSize, abs_sub_le_iff,
    sub_le_iff_le_add', add_comm hw, add_comm hh]
  tauto

/-- Two valid objects are at most `range` apart exactly if some points of them are. -/
theorem within_iff_exists_point (ha : a.isValid) (hb : b.isValid) (hrange : 0 ≤ range) :
    Within range a b ↔ ∃ x y, a.Contains x ∧ b.Contains y ∧ x.Within range y := by
  have hra := radius_nonneg ha
  have hrb := radius_nonneg hb
  have hoa : a.bounds.Ordered := bounds_ordered ha
  have hob : b.bounds.Ordered := bounds_ordered hb
  obtain ⟨c, extent, groups⟩ := a
  obtain ⟨c', extent', groups'⟩ := b
  cases extent with
  | disk r => cases extent' with
    | disk r' => exact Point.distanceSquared_le_iff.trans (Point.within_disks_iff hra hrb hrange)
    | box hw hh =>
      simp only [contains_box_iff]
      exact Bounds.reachedBy_add_iff hob hra hrange
  | box hw hh => cases extent' with
    | disk r =>
      simp only [contains_box_iff]
      refine (Bounds.reachedBy_add_iff hoa hrb hrange).trans ?_
      -- Here the disk is the second of the two.
      constructor
      · rintro ⟨y, x, hy, hx, hyx⟩
        exact ⟨x, y, hx, hy, Point.within_comm.1 hyx⟩
      · rintro ⟨x, y, hx, hy, hxy⟩
        exact ⟨y, x, hy, hx, Point.within_comm.1 hxy⟩
    | box hw' hh' =>
      simp only [contains_box_iff]
      exact Bounds.gapSquared_le_iff hoa hob

end Shape

/-! ## Narrow phases -/

namespace NarrowPhase

variable {ι K : Type} [Handle ι] [Field K] [LinearOrder K] [FloorRing K] [IsStrictOrderedRing K]
  {a b : Shape K} {range : K}

/-- What the narrow phases of the library decide about two valid objects, as sets of points: whether
    they come as near to each other as the range, whether they meet, whether their bounding boxes
    meet, and whether the disks that they are read as do. -/
theorem confirms_iff_exists_point (ha : a.isValid) (hb : b.isValid) (hrange : 0 ≤ range)
    (p : Pair ι) :
    ((withinRange range).confirms p a b ↔
      ∃ x y, a.Contains x ∧ b.Contains y ∧ x.Within range y) ∧
    (shapeOverlap.confirms p a b ↔ ∃ x, a.Contains x ∧ b.Contains x) ∧
    (boundsOverlap.confirms p a b ↔ ∃ x, a.bounds.Contains x ∧ b.bounds.Contains x) ∧
    (radiusOverlap.confirms p a b ↔
      ∃ x, a.position.Within a.extent.radius x ∧ b.position.Within b.extent.radius x) := by
  refine ⟨?_, ?_, ?_, ?_⟩
  · exact decide_eq_true_iff.trans (Shape.within_iff_exists_point ha hb hrange)
  · refine decide_eq_true_iff.trans ((Shape.within_iff_exists_point ha hb le_rfl).trans ?_)
    simp only [Point.within_zero_iff, exists_eq_right_right']
  · exact decide_eq_true_iff.trans
      (Bounds.intersects_iff (Shape.bounds_ordered ha) (Shape.bounds_ordered hb))
  · refine decide_eq_true_iff.trans (Point.distanceSquared_le_iff.trans ?_)
    rw [Point.within_add_iff (Shape.radius_nonneg ha) (Shape.radius_nonneg hb)]
    exact exists_congr fun x => and_congr_right fun _ => Point.within_comm

/-- A disk near the corner of a square. Some points of them are only just in range, but they do not
    meet, though their bounding boxes do; read as disks they do not meet either. -/
theorem confirms_iff_exists_point_corner :
    let a : Shape ℚ := { position := ⟨0, 0⟩, extent := .box 1 1 }
    let b : Shape ℚ := { position := ⟨4, 5⟩, extent := .disk 4 }
    a.isValid ∧ b.isValid ∧ (0 : ℚ) ≤ 1 ∧
      (∃ x y, a.Contains x ∧ b.Contains y ∧ x.Within 1 y) ∧
      (¬ ∃ x, a.Contains x ∧ b.Contains x) ∧
      (∃ x, a.bounds.Contains x ∧ b.bounds.Contains x) ∧
      ¬ ∃ x, a.position.Within a.extent.radius x ∧ b.position.Within b.extent.radius x := by
  intro a b
  have ha : a.isValid := by decide +kernel
  have hb : b.isValid := by decide +kernel
  have hrange : (0 : ℚ) ≤ 1 := by decide +kernel
  obtain ⟨hwithin, hshape, hbounds, hradius⟩ :=
    confirms_iff_exists_point ha hb hrange (⟨1, 2, rfl⟩ : Pair UInt32)
  exact ⟨ha, hb, hrange, hwithin.1 (by decide +kernel), hshape.not.1 (by decide +kernel),
    hbounds.1 (by decide +kernel), hradius.not.1 (by decide +kernel)⟩

end NarrowPhase

end Broadphase
