import Broadphase.Bounds
import Broadphase.Label

/-!
# Cells

The plane is cut into square cells of one size. A cell is known by its column
and its row, which are 32-bit coordinates: the grid is large but it has edges.

* A point is in the cell whose coordinates are those of the point divided by the
  cell size, rounded down (`Cell.ofPoint?`); a point beyond the edges is in none.
* Cells are ordered row by row.
-/

namespace Broadphase

/-- A square of the grid. -/
structure Cell where
  /-- The column; columns grow with `x`. -/
  col : Int32
  /-- The row; rows grow with `y`. -/
  row : Int32
  deriving DecidableEq, Repr

namespace Cell

/-- The cell at the origin. -/
instance : Inhabited Cell := ⟨⟨0, 0⟩⟩

/-- Cells are ordered by row, and by column within a row. -/
instance : Ord Cell where
  compare := compareLex (compareOn row) (compareOn col)

instance : Std.TransOrd Cell :=
  inferInstanceAs (Std.TransCmp (compareLex (compareOn row) (compareOn col)))

instance : Std.LawfulEqOrd Cell where
  eq_of_compare {a b} h := by
    obtain ⟨hr, hc⟩ := compareLex_eq_eq.1 (show compareLex _ _ a b = .eq from h)
    cases a; cases b
    simp_all [compareOn]

instance : Label Cell :=
  ⟨fun c => "CellKey\x7bcol=" ++ label c.col.toInt ++ ", row=" ++ label c.row.toInt ++ "\x7d"⟩

/-! ## Coordinates -/

/-- The least coordinate, `-2 ^ 31`. -/
def leastCoordinate : Int := -2147483648

/-- The greatest coordinate, `2 ^ 31 - 1`. -/
def greatestCoordinate : Int := 2147483647

/-- An integer as a coordinate, unless it is beyond the edges of the grid. -/
def coordinate? (n : Int) : Option Int32 :=
  if leastCoordinate ≤ n ∧ n ≤ greatestCoordinate then some (.ofInt n) else none

/-- The coordinate nearest to an integer. -/
def clampCoordinate (n : Int) : Int32 :=
  .ofInt (max leastCoordinate (min n greatestCoordinate))

/-- The cell so many columns and rows away, unless that is beyond the edges of the grid. -/
def offset? (c : Cell) (cols rows : Int32) : Option Cell := do
  let col ← coordinate? (c.col.toInt + cols.toInt)
  let row ← coordinate? (c.row.toInt + rows.toInt)
  return ⟨col, row⟩

/-- The cell nearest to the place so many columns and rows away. -/
def clampedOffset (c : Cell) (cols rows : Int) : Cell :=
  ⟨clampCoordinate (c.col.toInt + cols), clampCoordinate (c.row.toInt + rows)⟩

variable {S : Type} [Scalar S]

/-- The coordinate of the column or row that holds the position `x` along its axis. -/
def coordinateOf? (cellSize x : S) : Option Int32 :=
  (Scalar.floor? (x / cellSize)).bind coordinate?

/-- The cell that holds a point. -/
def ofPoint? (cellSize : S) (p : Point S) : Option Cell := do
  let col ← coordinateOf? cellSize p.x
  let row ← coordinateOf? cellSize p.y
  return ⟨col, row⟩

/-- The cell of a point has the column and the row of its coordinates. -/
theorem ofPoint?_eq_some_iff {cellSize : S} {p : Point S} {c : Cell} :
    ofPoint? cellSize p = some c ↔
      coordinateOf? cellSize p.x = some c.col ∧ coordinateOf? cellSize p.y = some c.row := by
  rw [ofPoint?]
  constructor
  · intro h
    obtain ⟨col, hcol, h⟩ := Option.bind_eq_some_iff.1 h
    obtain ⟨row, hrow, h⟩ := Option.bind_eq_some_iff.1 h
    obtain rfl := Option.some.inj h
    exact ⟨hcol, hrow⟩
  · rintro ⟨hcol, hrow⟩
    rw [hcol, hrow]
    rfl

end Cell

end Broadphase
