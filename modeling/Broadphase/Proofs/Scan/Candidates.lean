import Broadphase.Proofs.Grid.Consistency
import Broadphase.Proofs.Region.Distance
import Broadphase.Proofs.Scan.Proposals

/-!
# The candidates of a grid

A scan of a grid proposes each pair of objects with cells that are the same or
adjacent once, and nothing else (`nth_scanCells`), in whatever order the cells
are visited and the handles in a cell are listed, and whatever the scanner
remembers of earlier scans.

* `meets_at_iff`: who meets in the visit of one cell;
* `meets_iff`: who meets at all. Two handles in adjacent cells meet in the visit
  of the one that has the other ahead of it.
-/

namespace Broadphase

variable {ι S : Type} {listing : Cell → List ι} {order : List Cell} {a b : ι} {c : Cell}

/-! ## Meetings -/

/-- The handles of one list meet those of the other. -/
theorem mem_meetingsBetween {as bs : List ι} :
    (a, b) ∈ meetingsBetween as bs ↔ a ∈ as ∧ b ∈ bs := by
  simp only [meetingsBetween, List.mem_flatMap, List.mem_map, Prod.mk.injEq]
  constructor
  · rintro ⟨_, ha, _, hb, rfl, rfl⟩
    exact ⟨ha, hb⟩
  · rintro ⟨ha, hb⟩
    exact ⟨a, ha, b, hb, rfl, rfl⟩

/-- Two different handles in a list meet, one way around or the other. -/
theorem mem_meetingsAmong (hne : a ≠ b) {as : List ι} :
    (a, b) ∈ meetingsAmong as ∨ (b, a) ∈ meetingsAmong as ↔ a ∈ as ∧ b ∈ as := by
  induction as with
  | nil => simp [meetingsAmong]
  | cons x as ih =>
    have hx : ¬ (x = a ∧ x = b) := by
      rintro ⟨rfl, rfl⟩
      exact hne rfl
    simp only [meetingsAmong, List.mem_append, List.mem_map, Prod.mk.injEq, List.mem_cons,
      exists_eq_right_right, eq_comm (b := x)]
    tauto

theorem mem_meetingsAt : (a, b) ∈ meetingsAt listing c ↔
    (a, b) ∈ meetingsAmong (listing c) ∨
      ∃ d ∈ c.neighborsAhead, a ∈ listing c ∧ b ∈ listing d := by
  simp only [meetingsAt, List.mem_append, List.mem_flatMap, mem_meetingsBetween]

/-- In the visit of a cell, its handles meet each other and those ahead. -/
theorem meets_at_iff (hne : a ≠ b) :
    (a, b) ∈ meetingsAt listing c ∨ (b, a) ∈ meetingsAt listing c ↔
      (a ∈ listing c ∧ b ∈ listing c) ∨ ∃ d ∈ c.neighborsAhead,
        a ∈ listing c ∧ b ∈ listing d ∨ b ∈ listing c ∧ a ∈ listing d := by
  rw [← mem_meetingsAmong hne]
  simp only [mem_meetingsAt, and_or_left, exists_or]
  exact or_or_or_comm

/-- Two handles meet if they are listed in cells that are the same or adjacent. -/
theorem meets_iff (hne : a ≠ b) (horder : ∀ c, c ∉ order → listing c = []) :
    (∃ c ∈ order, (a, b) ∈ meetingsAt listing c ∨ (b, a) ∈ meetingsAt listing c) ↔
      ∃ c d, c.distance d ≤ 1 ∧ a ∈ listing c ∧ b ∈ listing d := by
  have hmem {x : ι} {c : Cell} (hx : x ∈ listing c) : c ∈ order := by
    by_contra hc
    rw [horder c hc] at hx
    exact List.not_mem_nil hx
  simp only [meets_at_iff hne]
  constructor
  · rintro ⟨c, -, ⟨ha, hb⟩ | ⟨d, hd, ⟨ha, hb⟩ | ⟨hb, ha⟩⟩⟩
    · exact ⟨c, c, Cell.distance_le_one_iff.2 (.inl rfl), ha, hb⟩
    · exact ⟨c, d, Cell.distance_le_one_iff.2 (.inr (.inl hd)), ha, hb⟩
    · exact ⟨d, c, Cell.distance_le_one_iff.2 (.inr (.inr hd)), ha, hb⟩
  · rintro ⟨c, d, hcd, ha, hb⟩
    -- The cell that has the other ahead of it is the one in which they meet.
    rcases Cell.distance_le_one_iff.1 hcd with rfl | hd | hc
    · exact ⟨c, hmem ha, .inl ⟨ha, hb⟩⟩
    · exact ⟨c, hmem ha, .inr ⟨d, hd, .inl ⟨ha, hb⟩⟩⟩
    · exact ⟨d, hmem hb, .inr ⟨c, hc, .inr ⟨hb, ha⟩⟩⟩

/-! ## Candidates -/

variable [Handle ι] {p : Pair ι}

theorem Pair.lo_ne_hi (p : Pair ι) : p.lo ≠ p.hi := fun h => by
  have := p.lo_lt_hi
  rw [h, Std.ReflOrd.compare_self] at this
  exact absurd this nofun

/-- The pairs that a scan of cells proposes. -/
theorem mem_proposals_scanCells (scanner : Scanner ι) (horder : ∀ c, c ∉ order → listing c = []) :
    p ∈ (scanner.scanCells listing order).proposals ↔
      ∃ c d, c.distance d ≤ 1 ∧ p.lo ∈ listing c ∧ p.hi ∈ listing d := by
  have hseen : p ∉ (∅ : Std.ExtTreeSet (Pair ι)) := Std.ExtTreeSet.not_mem_empty
  have hrem : (scanner.scanCells listing order).remaining = order.flatMap (meetingsAt listing) :=
    rfl
  rw [← meets_iff p.lo_ne_hi horder, Scan.proposals, hrem, mem_proposals]
  simp only [List.mem_flatMap]
  constructor
  · rintro ⟨-, ⟨a, b⟩, ⟨c, hc, hm⟩, hp⟩
    refine ⟨c, hc, ?_⟩
    rcases Pair.of?_eq_some_iff.1 hp with ⟨rfl, rfl⟩ | ⟨rfl, rfl⟩
    · exact .inl hm
    · exact .inr hm
  · rintro ⟨c, hc, hm | hm⟩
    · exact ⟨hseen, _, ⟨c, hc, hm⟩, p.of?_lo_hi⟩
    · exact ⟨hseen, _, ⟨c, hc, hm⟩, p.of?_hi_lo⟩

namespace Grid

variable [Scalar S] {g : Grid ι S}

/-- Two objects of a grid have cells that are at most `n` columns and rows apart. -/
def Near (g : Grid ι S) (n : Nat) (a b : ι) : Prop :=
  ∃ r r', g.region? a = some r ∧ g.region? b = some r' ∧ r.Near n r'

omit [Scalar S] in
theorem region?_eq_some_iff {r : Region} :
    g.region? a = some r ↔ ∃ o, g.objects[a]? = some o ∧ o.region = r := by
  rw [region?, Option.map_eq_some_iff]

theorem Consistent.mem_ids (h : g.Consistent) :
    a ∈ (g.cells.members c).ids ↔ ∃ r, g.region? a = some r ∧ c ∈ r := by
  refine (h.mem_members c a).trans ⟨fun ⟨o, ho, hc⟩ => ?_, fun ⟨r, hr, hc⟩ => ?_⟩
  · exact ⟨o.region, region?_eq_some_iff.2 ⟨o, ho, rfl⟩, hc⟩
  · obtain ⟨o, ho, rfl⟩ := region?_eq_some_iff.1 hr
    exact ⟨o, ho, hc⟩

/-- A scan of a grid proposes the pairs of objects near each other. -/
theorem Consistent.mem_proposals (h : g.Consistent) (scanner : Scanner ι)
    (horder : order.Perm g.cells.keys) (hlisting : ∀ c, (listing c).Perm (g.cells.members c).ids) :
    p ∈ (scanner.scanCells listing order).proposals ↔ g.Near 1 p.lo p.hi := by
  rw [mem_proposals_scanCells]
  · simp only [(hlisting _).mem_iff, h.mem_ids]
    constructor
    · rintro ⟨c, d, hcd, ⟨r, hr, hc⟩, r', hr', hd⟩
      exact ⟨r, r', hr, hr', c, hc, d, hd, hcd⟩
    · rintro ⟨r, r', hr, hr', c, hc, d, hd, hcd⟩
      exact ⟨c, d, hcd, ⟨r, hr, hc⟩, r', hr', hd⟩
  · -- A cell that is not visited is not occupied.
    intro c hc
    rw [horder.mem_iff, Std.ExtTreeMap.mem_keys] at hc
    have := hlisting c
    rw [Occupants.members_of_not_mem hc] at this
    exact this.eq_nil

/-- A scan of a grid, asked again and again, answers with each pair of objects with cells that are
    the same or adjacent, once, and then with nothing. It does not matter in which order the cells
    are visited and their handles listed, and what the scanner has seen before. -/
theorem nth_scanCells {cellSize : S} (hg : new cellSize = .ok g) (actions : List (Action ι S))
    (scanner : Scanner ι) (horder : order.Perm (g.run actions).cells.keys)
    (hlisting : ∀ c, (listing c).Perm ((g.run actions).cells.members c).ids) :
    ∃ candidates : List (Pair ι), candidates.Nodup ∧
      (∀ p, p ∈ candidates ↔ (g.run actions).Near 1 p.lo p.hi) ∧
      ∀ n, (scanner.scanCells listing order).nth n = candidates[n]? := by
  have h : (g.run actions).Consistent := (consistent_of_new hg).run actions
  exact ⟨(scanner.scanCells listing order).proposals, nodup_proposals _ _,
    fun p => h.mem_proposals scanner horder hlisting, Scan.nth_eq_getElem? _⟩

/-- Everything in reverse, with a scanner that remembers the one pair there is. -/
theorem nth_scanCells_reverse :
    let g : Grid UInt32 ℚ := (empty 10).run [
      .insert 1 { position := ⟨0, 0⟩, extent := .disk 15 },
      .insert 2 { position := ⟨25, 25⟩, extent := .box 4 12 }]
    new (10 : ℚ) = .ok (empty 10 : Grid UInt32 ℚ) ∧ ∃ candidates : List (Pair UInt32),
      candidates.Nodup ∧ (∀ p, p ∈ candidates ↔ g.Near 1 p.lo p.hi) ∧
      ∀ n, ((⟨(∅ : Std.ExtTreeSet (Pair UInt32)).insert ⟨1, 2, rfl⟩⟩ : Scanner UInt32).scanCells
        (fun c => (g.cells.members c).ids.reverse) g.cells.keys.reverse).nth n = candidates[n]? := by
  have h : new (10 : ℚ) = .ok (empty 10 : Grid UInt32 ℚ) := new_exact (by norm_num)
  exact ⟨h, nth_scanCells h _ _ (List.reverse_perm _) fun _ => List.reverse_perm _⟩

end Grid

end Broadphase
