import Broadphase.Grid.Scan
import Broadphase.Proofs.Region.Cells

/-!
# Distances on the grid

The distance of two cells is the larger of the numbers of columns and of rows
between them, so the cells at a distance of one from a cell are the eight around
it (`Cell.distance`). Two regions are as near as their nearest cells
(`Region.Near`).

* `Cell.distance_le_one_iff`: of two adjacent cells, one is ahead of the other.
  There is none beyond the edges: a step over an edge leads nowhere, and not to
  the opposite edge;
* `Region.near_iff`: regions are near if on both axes neither begins too far
  after the end of the other;
* `Region.intersects_iff_exists_mem`: the nearest are those that overlap.
-/

namespace Broadphase

namespace Cell

variable {c d : Cell}

/-- The number of columns or of rows from one cell to another, whichever is larger. -/
def distance (c d : Cell) : Nat :=
  max (c.col.toInt - d.col.toInt).natAbs (c.row.toInt - d.row.toInt).natAbs

theorem distance_comm : c.distance d = d.distance c := by
  rw [distance, distance]
  omega

theorem coordinate?_eq_some_iff {n : Int} {k : Int32} : coordinate? n = some k ↔ k.toInt = n := by
  rw [coordinate?]
  constructor
  · intro h
    simp only [Option.ite_none_right_eq_some, Option.some.injEq] at h
    obtain ⟨⟨h₁, h₂⟩, rfl⟩ := h
    exact Int32.toInt_ofInt_of_le h₁ (Int.lt_add_one_of_le h₂)
  · rintro rfl
    rw [if_pos ⟨k.le_toInt, k.toInt_le⟩, Int32.ofInt_toInt]

/-- A step leads to the exact sum, if this is on the grid. -/
theorem offset?_eq_some_iff {cols rows : Int32} : c.offset? cols rows = some d ↔
    d.col.toInt = c.col.toInt + cols.toInt ∧ d.row.toInt = c.row.toInt + rows.toInt := by
  rw [offset?]
  constructor
  · intro h
    obtain ⟨col, hcol, h⟩ := Option.bind_eq_some_iff.1 h
    obtain ⟨row, hrow, h⟩ := Option.bind_eq_some_iff.1 h
    rw [← Option.some.inj h]
    exact ⟨coordinate?_eq_some_iff.1 hcol, coordinate?_eq_some_iff.1 hrow⟩
  · rintro ⟨hcol, hrow⟩
    rw [coordinate?_eq_some_iff.2 hcol, coordinate?_eq_some_iff.2 hrow]
    rfl

/-- The cells ahead are one to the right, or in the next row and at most one column away. -/
theorem mem_neighborsAhead : d ∈ c.neighborsAhead ↔
    d.col.toInt = c.col.toInt + 1 ∧ d.row.toInt = c.row.toInt ∨
      (d.col.toInt - c.col.toInt).natAbs ≤ 1 ∧ d.row.toInt = c.row.toInt + 1 := by
  have h (cols rows : Int32) : c.offset? cols rows = some d ↔
      d.col.toInt = c.col.toInt + cols.toInt ∧ d.row.toInt = c.row.toInt + rows.toInt :=
    offset?_eq_some_iff
  simp only [neighborsAhead, stepsAhead, List.mem_filterMap, List.mem_cons, List.not_mem_nil,
    or_false, exists_eq_or_imp, exists_eq_left, h]
  simp only [show (1 : Int32).toInt = 1 from rfl, show (0 : Int32).toInt = 0 from rfl,
    show (-1 : Int32).toInt = -1 from rfl]
  omega

theorem distance_le_zero_iff : c.distance d ≤ 0 ↔ c = d := by
  rw [eq_iff, distance]
  omega

/-- Of two adjacent cells, one has the other ahead of it. -/
theorem distance_le_one_iff :
    c.distance d ≤ 1 ↔ c = d ∨ d ∈ c.neighborsAhead ∨ c ∈ d.neighborsAhead := by
  rw [eq_iff, mem_neighborsAhead, mem_neighborsAhead, distance]
  omega

end Cell

namespace Region

variable {a b : Region} {n : Nat}

/-- Some cell of one region is at most `n` columns and rows away from some cell of another. -/
def Near (n : Nat) (a b : Region) : Prop := ∃ c ∈ a, ∃ d ∈ b, c.distance d ≤ n

theorem near_comm : Near n a b ↔ Near n b a := by
  have h {a b : Region} : Near n a b → Near n b a := fun ⟨c, hc, d, hd, hdist⟩ =>
    ⟨d, hd, c, hc, Cell.distance_comm.trans_le hdist⟩
  exact ⟨h, h⟩

/-- The nearest coordinates of two intervals. -/
theorem exists_natAbs_sub_le {l u l' u' : Int32} (h : l.toInt ≤ u.toInt)
    (h' : l'.toInt ≤ u'.toInt) (hn : l.toInt ≤ u'.toInt + n) (hn' : l'.toInt ≤ u.toInt + n) :
    ∃ x x' : Int32, (l.toInt ≤ x.toInt ∧ x.toInt ≤ u.toInt) ∧
      (l'.toInt ≤ x'.toInt ∧ x'.toInt ≤ u'.toInt) ∧ (x.toInt - x'.toInt).natAbs ≤ n := by
  -- Either one interval ends before the other begins, or the later beginning is in both.
  by_cases h₁ : u.toInt < l'.toInt
  · exact ⟨u, l', by omega⟩
  by_cases h₂ : u'.toInt < l.toInt
  · exact ⟨l, u', by omega⟩
  by_cases h₃ : l.toInt ≤ l'.toInt
  · exact ⟨l', l', by omega⟩
  · exact ⟨l, l, by omega⟩

/-- Regions are near each other if they are so on both axes. -/
theorem near_iff (ha : a.Ordered) (hb : b.Ordered) : Near n a b ↔
    (a.lower.col.toInt ≤ b.upper.col.toInt + n ∧ b.lower.col.toInt ≤ a.upper.col.toInt + n) ∧
      a.lower.row.toInt ≤ b.upper.row.toInt + n ∧ b.lower.row.toInt ≤ a.upper.row.toInt + n := by
  constructor
  · rintro ⟨c, hc, d, hd, h⟩
    rw [mem_iff] at hc hd
    rw [Cell.distance] at h
    omega
  · rintro ⟨⟨hcol, hcol'⟩, hrow, hrow'⟩
    rw [ordered_iff] at ha hb
    obtain ⟨x, x', hx, hx', hxx'⟩ := exists_natAbs_sub_le ha.1 hb.1 hcol hcol'
    obtain ⟨y, y', hy, hy', hyy'⟩ := exists_natAbs_sub_le ha.2 hb.2 hrow hrow'
    exact ⟨⟨x, y⟩, mem_iff.2 ⟨hx, hy⟩, ⟨x', y'⟩, mem_iff.2 ⟨hx', hy'⟩, max_le hxx' hyy'⟩

theorem near_zero_iff : Near 0 a b ↔ ∃ c ∈ a, c ∈ b := by
  simp only [Near, Cell.distance_le_zero_iff, exists_eq_right']

theorem intersects_iff : a.Intersects b ↔
    (a.lower.col.toInt ≤ b.upper.col.toInt ∧ b.lower.col.toInt ≤ a.upper.col.toInt) ∧
      a.lower.row.toInt ≤ b.upper.row.toInt ∧ b.lower.row.toInt ≤ a.upper.row.toInt := by
  simp only [← Int32.le_iff_toInt_le]
  rfl

/-- Two regions overlap exactly if they have a cell in common. -/
theorem intersects_iff_exists_mem (ha : a.Ordered) (hb : b.Ordered) :
    a.Intersects b ↔ ∃ c ∈ a, c ∈ b := by
  rw [← near_zero_iff, near_iff ha hb, intersects_iff]
  omega

end Region

end Broadphase
