import Broadphase.InOrder
import Broadphase.Proofs.Region.Cells
import Broadphase.Region.Walk
import Mathlib.Algebra.Ring.Nat

/-!
# The order of a walk

A walk through a region visits its cells in order, row by row, each once, and then
comes to its end (`Region.nth_walk`), also in the last column and the last row of
the grid.

* `Stretch.mem_coordinates`, `Stretch.pairwise_coordinates`: a stretch visits the
  coordinates from its next to its last one, in ascending order;
* `Walk.next_spec`: from outside, a walk goes through one list of cells, those
  still to be visited (`Walk.remaining`). The two stretches only decide where the
  next one of them is found;
* `Region.cells_eq_remaining`: at the beginning, this list holds all cells of the
  region. It is ascending, as `Region.cells` is, and has the same members;
* `Region.toNat_count`: the number that is computed from the corners is the number
  of cells, as far as a word goes. On the way to it, no word is too small
  (`Region.Counted`).
-/

namespace Broadphase

/-- Cells are in the order of their rows and, in a row, of their columns. -/
theorem Cell.compare_eq_lt_iff {c d : Cell} : compare c d = .lt ↔
    c.row.toInt < d.row.toInt ∨ c.row.toInt = d.row.toInt ∧ c.col.toInt < d.col.toInt := by
  have h : compare c d = (compare c.row d.row).then (compare c.col d.col) := rfl
  rw [h, Ordering.then_eq_lt, Std.compare_eq_lt, Std.compare_eq_lt,
    Std.LawfulEqCmp.compare_eq_iff_eq, Int32.lt_iff_toInt_lt, Int32.lt_iff_toInt_lt,
    Int32.toInt_inj]

/-! ## Stretches -/

namespace Stretch

variable {s : Stretch} {k : Int32}

/-- The coordinates still to be visited, in turn. -/
def coordinates (s : Stretch) : List Int32 :=
  match _h : s.step? with
  | some (k, s') => k :: coordinates s'
  | none => []
termination_by s.left
decreasing_by exact left_of_step? _h

theorem step?_eq_none_iff : s.step? = none ↔ s.isOver = true ∨ s.last.toInt < s.next.toInt := by
  rw [← Int32.lt_iff_toInt_lt, ← Int32.not_le, step?]
  split
  case isTrue h => exact iff_of_true rfl h
  case isFalse h =>
    refine iff_of_false ?_ h
    split <;> exact Option.some_ne_none _

theorem coordinates_of_step? {s' : Stretch} (h : s.step? = some (k, s')) :
    s.coordinates = k :: s'.coordinates := by
  rw [coordinates]
  split
  case h_1 h' =>
    obtain ⟨rfl, rfl⟩ := Prod.mk.inj (Option.some.inj (h'.symm.trans h))
    rfl
  case h_2 h' => exact absurd (h'.symm.trans h) nofun

theorem coordinates_eq_nil (h : s.step? = none) : s.coordinates = [] := by
  rw [coordinates]
  split
  case h_1 h' => exact absurd (h'.symm.trans h) nofun
  case h_2 => rfl

/-- A stretch that is not over visits everything from its next to its last coordinate. -/
theorem mem_coordinates : k ∈ s.coordinates ↔
    s.isOver = false ∧ s.next.toInt ≤ k.toInt ∧ k.toInt ≤ s.last.toInt := by
  fun_induction coordinates s with
  | case1 s k' s' h ih =>
    rw [List.mem_cons, ih, ← Int32.toInt_inj]
    obtain ⟨hover, rfl, ⟨hlt, rfl⟩ | ⟨heq, rfl⟩⟩ := step?_eq_some_iff.1 h
    · have := Int32.lt_iff_toInt_lt.1 hlt
      simp only [hover, toInt_add_one hlt, true_and]
      omega
    · -- The last coordinate has been visited, and nothing comes after it.
      simp only [hover, heq, reduceCtorEq, false_and, or_false, true_and]
      omega
  | case2 s h =>
    rcases step?_eq_none_iff.1 h with hover | hlt
    · simp only [hover, reduceCtorEq, false_and, List.not_mem_nil]
    · simp only [List.not_mem_nil, false_iff]
      omega

/-- A stretch visits its coordinates in ascending order. -/
theorem pairwise_coordinates (s : Stretch) :
    s.coordinates.Pairwise fun k l => k.toInt < l.toInt := by
  fun_induction coordinates s with
  | case1 s k s' h ih =>
    refine List.pairwise_cons.2 ⟨fun l hl => ?_, ih⟩
    obtain ⟨hover, hnext, -⟩ := mem_coordinates.1 hl
    obtain ⟨-, rfl, ⟨hlt, rfl⟩ | ⟨-, rfl⟩⟩ := step?_eq_some_iff.1 h
    · rw [toInt_add_one hlt] at hnext
      omega
    · exact absurd hover nofun
  | case2 s h => exact .nil

end Stretch

/-! ## Walks -/

namespace Walk

/-- The cells of a row, as far as they are still to be visited. -/
def rowCells (cols : Stretch) (row : Int32) : List Cell :=
  cols.coordinates.map fun col => ⟨col, row⟩

theorem mem_rowCells {cols : Stretch} {row : Int32} {c : Cell} :
    c ∈ rowCells cols row ↔ c.col ∈ cols.coordinates ∧ c.row = row := by
  simp only [rowCells, List.mem_map]
  constructor
  · rintro ⟨col, hcol, rfl⟩
    exact ⟨hcol, rfl⟩
  · rintro ⟨hcol, rfl⟩
    exact ⟨c.col, hcol, rfl⟩

theorem ascending_rowCells (cols : Stretch) (row : Int32) :
    Ascending (rowCells cols row) := by
  rw [Ascending, rowCells, List.pairwise_map]
  refine cols.pairwise_coordinates.imp fun hcol => ?_
  exact Cell.compare_eq_lt_iff.2 (.inr ⟨rfl, hcol⟩)

/-- The cells still to be visited. -/
def remaining (w : Walk) : List Cell :=
  rowCells w.here w.row ++ w.rows.coordinates.flatMap (rowCells w.cols)

/-- The next cell is the first of those still to be visited, and the others follow. -/
theorem next_spec (w : Walk) :
    w.next.1 = w.remaining.head? ∧ w.next.2.remaining = w.remaining.tail := by
  fun_induction Walk.next w with
  | case1 w col here h =>
    have : w.remaining = ⟨col, w.row⟩ :: { w with here }.remaining := by
      rw [remaining, remaining, rowCells, Stretch.coordinates_of_step? h]
      rfl
    rw [this]
    exact ⟨rfl, rfl⟩
  | case2 w h row rows h' ih =>
    -- This row is finished, and the next one begins.
    have : w.remaining = { w with rows, row, here := w.cols }.remaining := by
      rw [remaining, remaining, rowCells, Stretch.coordinates_eq_nil h,
        Stretch.coordinates_of_step? h', List.flatMap_cons]
      rfl
    rw [this]
    exact ih
  | case3 w h h' =>
    have : w.remaining = [] := by
      rw [remaining, rowCells, Stretch.coordinates_eq_nil h, Stretch.coordinates_eq_nil h']
      rfl
    rw [this]
    exact ⟨rfl, rfl⟩

/-- The answer to the call of `next` after `n` others. -/
def nth (w : Walk) : Nat → Option Cell
  | 0 => w.next.1
  | n + 1 => w.next.2.nth n

/-- One call after another, a walk answers with the cells still to be visited, and then with
    nothing. -/
theorem nth_eq_getElem? (w : Walk) (n : Nat) : w.nth n = w.remaining[n]? := by
  induction n generalizing w with
  | zero => rw [nth, (next_spec w).1, List.head?_eq_getElem?]
  | succ n ih => rw [nth, ih, (next_spec w).2, List.getElem?_tail]

end Walk

/-! ## Regions -/

namespace Region

variable {r : Region} {c : Cell}

theorem remaining_walk (r : Region) :
    r.walk.remaining = r.walk.rows.coordinates.flatMap (Walk.rowCells r.walk.cols) := by
  have h : r.walk.here.coordinates = [] := Stretch.coordinates_eq_nil rfl
  rw [Walk.remaining, Walk.rowCells, h]
  rfl

/-- At the beginning, all cells of the region are still to be visited. -/
theorem mem_remaining_walk : c ∈ r.walk.remaining ↔ c ∈ r := by
  rw [remaining_walk, List.mem_flatMap]
  simp only [Walk.mem_rowCells, Stretch.mem_coordinates, walk, true_and, mem_iff]
  constructor
  · rintro ⟨row, hrow, hcol, rfl⟩
    exact ⟨hcol, hrow⟩
  · rintro ⟨hcol, hrow⟩
    exact ⟨c.row, hrow, hcol, rfl⟩

/-- They are visited in order. -/
theorem ascending_remaining_walk (r : Region) : Ascending r.walk.remaining := by
  rw [remaining_walk, Ascending, List.pairwise_flatMap]
  refine ⟨fun row _ => Walk.ascending_rowCells _ row, ?_⟩
  -- All cells of one row come before those of the next.
  refine r.walk.rows.pairwise_coordinates.imp fun hrow c hc d hd => ?_
  obtain ⟨-, rfl⟩ := Walk.mem_rowCells.1 hc
  obtain ⟨-, rfl⟩ := Walk.mem_rowCells.1 hd
  exact Cell.compare_eq_lt_iff.2 (.inl hrow)

/-- The list of the cells of a region is in order. -/
theorem ascending_cells (r : Region) : Ascending r.cells := by
  rw [cells_eq_map, Ascending, List.pairwise_map]
  refine List.Pairwise.imp_of_mem (fun {i j} hi hj hlt => ?_) List.pairwise_lt_range
  obtain ⟨hcol, hrow⟩ := (nth_eq_iff (List.mem_range.1 hi)).1 rfl
  obtain ⟨hcol', hrow'⟩ := (nth_eq_iff (List.mem_range.1 hj)).1 rfl
  rw [Cell.compare_eq_lt_iff, hcol, hrow, hcol', hrow']
  have hi := Nat.div_add_mod i r.width
  have hj := Nat.div_add_mod j r.width
  rcases (Nat.div_le_div_right hlt.le : i / r.width ≤ j / r.width).lt_or_eq with h | h
  · omega
  · rw [h] at hi ⊢
    omega

/-- The cells of a region in order are those that a walk visits. -/
theorem cells_eq_remaining (r : Region) : r.cells = r.walk.remaining :=
  (ascending_cells r).ext (ascending_remaining_walk r) fun _ =>
    mem_cells.trans mem_remaining_walk.symm

/-! ## Counting -/

theorem length_cells (r : Region) : r.cells.length = r.width * r.height := by
  rw [cells_eq_map, List.length_map, List.length_range]

/-- The coordinates from one to another are counted without leaving a word: signed words hold the
    difference and what follows it, and an unsigned word the number. -/
structure Counted (first last : Int32) : Prop where
  /-- The difference is that of the coordinates. -/
  toInt_sub : (last.toInt64 - first.toInt64).toInt = last.toInt - first.toInt
  /-- One more is one more. -/
  toInt_sub_add_one : (last.toInt64 - first.toInt64 + 1).toInt = last.toInt - first.toInt + 1
  /-- The number is not negative. -/
  toNat_span : ((span first last).toNat : Int) = last.toInt - first.toInt + 1

/-- No word is too small for the number of coordinates between two others. -/
theorem counted {first last : Int32} (h : first ≤ last) : Counted first last := by
  rw [Int32.le_iff_toInt_le] at h
  have hfirst := first.le_toInt
  have hlast := last.toInt_lt
  have hsub : (last.toInt64 - first.toInt64).toInt = last.toInt - first.toInt := by
    rw [Int64.toInt_sub, Int32.toInt_toInt64, Int32.toInt_toInt64]
    exact Int.bmod_eq_of_le_mul_two (by omega) (by omega)
  have hadd : (last.toInt64 - first.toInt64 + 1).toInt = last.toInt - first.toInt + 1 := by
    rw [Int64.toInt_add, hsub, Int64.toInt_one]
    exact Int.bmod_eq_of_le_mul_two (by omega) (by omega)
  refine ⟨hsub, hadd, ?_⟩
  have hpos : 0 ≤ last.toInt64 - first.toInt64 + 1 := by
    rw [Int64.le_iff_toInt_le, hadd, Int64.toInt_zero]
    omega
  rw [span, Int64.toNat_toUInt64_of_le hpos, Int64.toNatClampNeg, hadd]
  omega

theorem toNat_span_col (h : r.Ordered) : (span r.lower.col r.upper.col).toNat = r.width := by
  have := (counted h.1).toNat_span
  rw [width]
  omega

theorem toNat_span_row (h : r.Ordered) : (span r.lower.row r.upper.row).toNat = r.height := by
  have := (counted h.2).toNat_span
  rw [height]
  omega

/-- The count is the number of cells, as far as a word goes. -/
theorem toNat_count (h : r.Ordered) : r.count.toNat = min r.cells.length (2 ^ 64 - 1) := by
  have hcount : r.count = if r.width * r.height < UInt64.size then
      span r.lower.col r.upper.col * span r.lower.row r.upper.row
      else .ofNat (UInt64.size - 1) := by
    rw [count, toNat_span_col h, toNat_span_row h]
  rw [length_cells, hcount]
  split
  case isTrue hlt =>
    rw [UInt64.toNat_mul, toNat_span_col h, toNat_span_row h, Nat.mod_eq_of_lt hlt]
    exact (Nat.min_eq_left (Nat.le_sub_one_of_lt hlt)).symm
  case isFalse hge =>
    have : 2 ^ 64 - 1 ≤ r.width * r.height := (Nat.sub_le _ _).trans (Nat.not_lt.1 hge)
    rw [Nat.min_eq_right this]
    rfl

/-- A walk through a region, asked again and again, answers with the cells of the region in order,
    each once, and then with nothing. There is none if the corners are the wrong way around on an
    axis. If they are not, the count is the number of cells, as far as a word goes, and it is
    computed without leaving a word before that. -/
theorem nth_walk (r : Region) :
    (∀ n, r.walk.nth n = r.cells[n]?) ∧ Ascending r.cells ∧ (∀ c, c ∈ r.cells ↔ c ∈ r) ∧
      (¬ r.Ordered → r.cells = []) ∧
      (r.Ordered → r.count.toNat = min r.cells.length (2 ^ 64 - 1) ∧
        Counted r.lower.col r.upper.col ∧ Counted r.lower.row r.upper.row) := by
  refine ⟨fun n => ?_, ascending_cells r, fun c => mem_cells, fun h => ?_, fun h =>
    ⟨toNat_count h, counted h.1, counted h.2⟩⟩
  · rw [cells_eq_remaining]
    exact r.walk.nth_eq_getElem? n
  · exact List.eq_nil_iff_forall_not_mem.2 fun c hc => h (ordered_of_mem (mem_cells.1 hc))

/-- The whole grid has one cell more than a word can count, and a walk through its last row comes to
    its end in the last column. -/
theorem nth_walk_whole :
    let whole : Region := ⟨⟨-2147483648, -2147483648⟩, ⟨2147483647, 2147483647⟩⟩
    let corner : Region := ⟨⟨2147483646, 2147483647⟩, ⟨2147483647, 2147483647⟩⟩
    whole.Ordered ∧ whole.cells.length = 2 ^ 64 ∧
      whole.count.toNat = min whole.cells.length (2 ^ 64 - 1) ∧
      Counted whole.lower.col whole.upper.col ∧
      corner.cells = [⟨2147483646, 2147483647⟩, ⟨2147483647, 2147483647⟩] ∧
      ∀ n, corner.walk.nth n = corner.cells[n]? := by
  have h : (⟨⟨-2147483648, -2147483648⟩, ⟨2147483647, 2147483647⟩⟩ : Region).Ordered := by decide
  obtain ⟨-, -, -, -, hcount⟩ := nth_walk ⟨⟨-2147483648, -2147483648⟩, ⟨2147483647, 2147483647⟩⟩
  obtain ⟨hnth, -⟩ := nth_walk ⟨⟨2147483646, 2147483647⟩, ⟨2147483647, 2147483647⟩⟩
  exact ⟨h, by rw [length_cells]; decide, (hcount h).1, (hcount h).2.1, by decide, hnth⟩

end Region

end Broadphase
