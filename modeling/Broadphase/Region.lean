import Broadphase.Cell

/-!
# Regions

A region is a rectangle of cells, given by its corner cells, both of them in it.
If the corners are the wrong way around on an axis, it holds no cell.

* `Region.cells` lists the cells of a region, row by row;
* `Region.count` is their number as a 64-bit word. It is computed from the
  corners alone, so it means nothing for a region with its corners the wrong way
  around, and it stays at the greatest word for the one region that has `2 ^ 64`
  cells, the whole grid;
* `Region.covering?` is the region that a box overlaps.
-/

namespace Broadphase

/-- An inclusive rectangle of cells. -/
structure Region where
  /-- The cell with the least column and row. -/
  lower : Cell
  /-- The cell with the greatest column and row. -/
  upper : Cell
  deriving DecidableEq, Repr

namespace Region

instance : Label Region :=
  ⟨fun r => "CellRange \x7b min: " ++ label r.lower ++ ", max: " ++ label r.upper ++ " \x7d"⟩

variable (r : Region)

/-- The region of one cell. -/
def single (c : Cell) : Region := ⟨c, c⟩

/-- A cell is between the corners on both axes. -/
instance : Membership Cell Region where
  mem r c := (r.lower.col ≤ c.col ∧ c.col ≤ r.upper.col) ∧
    r.lower.row ≤ c.row ∧ c.row ≤ r.upper.row

instance (c : Cell) : Decidable (c ∈ r) := inferInstanceAs (Decidable ((_ ∧ _) ∧ _ ∧ _))

/-- The corners are the right way around on both axes. -/
def Ordered : Prop := r.lower.col ≤ r.upper.col ∧ r.lower.row ≤ r.upper.row

instance : Decidable r.Ordered := inferInstanceAs (Decidable (_ ∧ _))

/-- Two regions overlap on both axes. -/
def Intersects (a b : Region) : Prop :=
  (a.lower.col ≤ b.upper.col ∧ b.lower.col ≤ a.upper.col) ∧
    a.lower.row ≤ b.upper.row ∧ b.lower.row ≤ a.upper.row

instance (a b : Region) : Decidable (a.Intersects b) :=
  inferInstanceAs (Decidable ((_ ∧ _) ∧ _ ∧ _))

/-- The region with every side moved outwards by `margin` cells, but not beyond the edges of the
    grid. A margin above the greatest coordinate counts as that coordinate. -/
def dilate (margin : UInt32) : Region :=
  let margin := min (margin.toNat : Int) Cell.greatestCoordinate
  ⟨r.lower.clampedOffset (-margin) (-margin), r.upper.clampedOffset margin margin⟩

/-! ## Cells of a region -/

/-- The number of columns. -/
def width : Nat := (r.upper.col.toInt - r.lower.col.toInt + 1).toNat

/-- The number of rows. -/
def height : Nat := (r.upper.row.toInt - r.lower.row.toInt + 1).toNat

/-- The cell at a place in the row-by-row order. -/
def nth (i : Nat) : Cell where
  col := .ofInt (r.lower.col.toInt + (i % r.width : Nat))
  row := .ofInt (r.lower.row.toInt + (i / r.width : Nat))

/-- The first `n` cells, row by row, or all of them if there are fewer. -/
def firstCells (n : Nat) : List Cell :=
  (List.range (min n (r.width * r.height))).map r.nth

/-- Every cell, row by row. -/
def cells : List Cell := r.firstCells (r.width * r.height)

/-- The distance between two coordinates, both counted, as a word. -/
def span (first last : Int32) : UInt64 := (last.toInt64 - first.toInt64 + 1).toUInt64

/-- The number of cells, or the greatest word if that is too large for one. -/
def count : UInt64 :=
  let cols := span r.lower.col r.upper.col
  let rows := span r.lower.row r.upper.row
  if cols.toNat * rows.toNat < UInt64.size then cols * rows else .ofNat (UInt64.size - 1)

/-! ## Covering -/

variable {S : Type} [Scalar S]

/-- The cells that a closed box overlaps, unless a corner is beyond the edges of the grid or the
    corners are the wrong way around. -/
def covering? (cellSize : S) (b : Bounds S) : Option Region := do
  let lower ← Cell.ofPoint? cellSize b.lower
  let upper ← Cell.ofPoint? cellSize b.upper
  let region : Region := ⟨lower, upper⟩
  if region.Ordered then some region else none

/-- A box is covered by the region from the cell of its lower corner to that of its upper one, if
    this is the right way around. -/
theorem covering?_eq_some_iff {cellSize : S} {b : Bounds S} {r : Region} :
    covering? cellSize b = some r ↔ Cell.ofPoint? cellSize b.lower = some r.lower ∧
      Cell.ofPoint? cellSize b.upper = some r.upper ∧ r.Ordered := by
  rw [covering?]
  constructor
  · intro h
    obtain ⟨lower, hlower, h⟩ := Option.bind_eq_some_iff.1 h
    obtain ⟨upper, hupper, h⟩ := Option.bind_eq_some_iff.1 h
    simp only [Option.ite_none_right_eq_some, Option.some.injEq] at h
    obtain ⟨hordered, rfl⟩ := h
    exact ⟨hlower, hupper, hordered⟩
  · rintro ⟨hlower, hupper, hordered⟩
    rw [hlower, hupper]
    exact if_pos hordered

end Region

end Broadphase
