import Broadphase.Region
import Mathlib.Data.List.Nodup
import Mathlib.Data.List.Range

/-!
# The cells of a region

Coordinates are compared as integers (`Cell.eq_iff`, `Region.mem_iff`), where no
sum of a coordinate and a length leaves the range of a word unnoticed.

* `mem_cells`: the cells listed row by row are those of the region;
* `nodup_cells`: each of them is listed once.
-/

namespace Broadphase

namespace Cell

theorem eq_iff {c d : Cell} : c = d ↔ c.col.toInt = d.col.toInt ∧ c.row.toInt = d.row.toInt := by
  rw [Int32.toInt_inj, Int32.toInt_inj]
  cases c; cases d; simp

/-- An integer between two coordinates is one. -/
theorem toInt_ofInt {n : Int} (a b : Int32) (h₁ : a.toInt ≤ n) (h₂ : n ≤ b.toInt) :
    (Int32.ofInt n).toInt = n :=
  Int32.toInt_ofInt_of_le (Int.le_trans a.le_toInt h₁) (Int.lt_of_le_of_lt h₂ b.toInt_lt)

end Cell

namespace Region

variable {r : Region} {c : Cell}

/-- A cell is in a region if its coordinates are between those of the corners. -/
theorem mem_iff : c ∈ r ↔ (r.lower.col.toInt ≤ c.col.toInt ∧ c.col.toInt ≤ r.upper.col.toInt) ∧
    r.lower.row.toInt ≤ c.row.toInt ∧ c.row.toInt ≤ r.upper.row.toInt := by
  simp only [← Int32.le_iff_toInt_le]
  rfl

theorem ordered_iff : r.Ordered ↔
    r.lower.col.toInt ≤ r.upper.col.toInt ∧ r.lower.row.toInt ≤ r.upper.row.toInt := by
  simp only [← Int32.le_iff_toInt_le]
  rfl

/-- A region with its corners the wrong way around has no cells. -/
theorem ordered_of_mem (h : c ∈ r) : r.Ordered :=
  ⟨Int32.le_trans h.1.1 h.1.2, Int32.le_trans h.2.1 h.2.2⟩

theorem lower_mem (h : r.Ordered) : r.lower ∈ r :=
  ⟨⟨Int32.le_refl _, h.1⟩, Int32.le_refl _, h.2⟩

/-- A place in the row-by-row order is one in a row and a row. -/
theorem mod_lt_width {i : Nat} (hi : i < r.width * r.height) : i % r.width < r.width :=
  Nat.mod_lt i (Nat.pos_of_mul_pos_right (Nat.zero_lt_of_lt hi))

theorem div_lt_height {i : Nat} (hi : i < r.width * r.height) : i / r.width < r.height :=
  Nat.div_lt_of_lt_mul hi

/-- The cell at a place is so many columns and rows away from the lower corner. -/
theorem nth_eq_iff {i : Nat} (hi : i < r.width * r.height) :
    r.nth i = c ↔ c.col.toInt = r.lower.col.toInt + (i % r.width : Nat) ∧
      c.row.toInt = r.lower.row.toInt + (i / r.width : Nat) := by
  have hcol := mod_lt_width hi
  have hrow := div_lt_height hi
  rw [Cell.eq_iff, nth]
  -- Only the bounds of the remainder and the quotient matter.
  generalize i % r.width = cols at *
  generalize i / r.width = rows at *
  rw [width] at hcol
  rw [height] at hrow
  rw [Cell.toInt_ofInt r.lower.col r.upper.col (by omega) (by omega),
    Cell.toInt_ofInt r.lower.row r.upper.row (by omega) (by omega)]
  exact and_congr eq_comm eq_comm

theorem cells_eq_map (r : Region) : r.cells = (List.range (r.width * r.height)).map r.nth := by
  rw [cells, firstCells, Nat.min_self]

/-- The list of cells holds those of the region. -/
theorem mem_cells : c ∈ r.cells ↔ c ∈ r := by
  rw [cells_eq_map, List.mem_map, mem_iff]
  constructor
  · rintro ⟨i, hi, hc⟩
    have hi := List.mem_range.1 hi
    obtain ⟨hcol, hrow⟩ := (nth_eq_iff hi).1 hc
    have hcol' := mod_lt_width hi
    have hrow' := div_lt_height hi
    generalize i % r.width = cols at *
    generalize i / r.width = rows at *
    rw [width] at hcol'
    rw [height] at hrow'
    omega
  · rintro ⟨⟨_, _⟩, _, _⟩
    -- The cell is at the place `rows * width + cols`.
    obtain ⟨cols, hcols⟩ := Int.eq_ofNat_of_zero_le (a := c.col.toInt - r.lower.col.toInt) (by omega)
    obtain ⟨rows, hrows⟩ := Int.eq_ofNat_of_zero_le (a := c.row.toInt - r.lower.row.toInt) (by omega)
    have hw : cols < r.width := by rw [width]; omega
    have hh : rows < r.height := by rw [height]; omega
    have hi : cols + r.width * rows < r.width * r.height := by
      calc cols + r.width * rows < r.width * (rows + 1) := by rw [Nat.mul_succ]; omega
        _ ≤ r.width * r.height := Nat.mul_le_mul_left _ hh
    refine ⟨cols + r.width * rows, List.mem_range.2 hi, (nth_eq_iff hi).2 ?_⟩
    rw [Nat.add_mul_mod_self_left, Nat.mod_eq_of_lt hw,
      Nat.add_mul_div_left _ _ (Nat.zero_lt_of_lt hw), Nat.div_eq_of_lt hw]
    omega

/-- No cell is listed twice. -/
theorem nodup_cells (r : Region) : r.cells.Nodup := by
  rw [cells_eq_map]
  refine List.Nodup.map_on (fun i hi j hj h => ?_) List.nodup_range
  have hi := (nth_eq_iff (List.mem_range.1 hi)).1 rfl
  have hj := (nth_eq_iff (List.mem_range.1 hj)).1 h.symm
  have hcol := Int.ofNat_inj.1 (Int.add_left_cancel (hi.1.symm.trans hj.1))
  have hrow := Int.ofNat_inj.1 (Int.add_left_cancel (hi.2.symm.trans hj.2))
  rw [← Nat.div_add_mod i r.width, ← Nat.div_add_mod j r.width, hcol, hrow]

end Region

end Broadphase
