import Broadphase.Region

/-!
# Walks

A walk visits the cells of a region one at a time (`Walk.next`), each row from its
first column to its last. It goes through two nested stretches of coordinates: the
rows of the region and, in each of them from the beginning, its columns. A region
with its corners the wrong way around has no columns to visit in its rows, or no
rows.

A stretch includes both of its ends, and the last of them may be the greatest
coordinate, which no other follows. So a stretch never goes on from its last
coordinate: it stays there and notes that it is over (`Stretch.step?`).
-/

namespace Broadphase

/-- The coordinates from one to another, both included, under way. -/
structure Stretch where
  /-- The next coordinate. -/
  next : Int32
  /-- The last coordinate. -/
  last : Int32
  /-- The last coordinate has been visited. -/
  isOver : Bool
  deriving DecidableEq, Repr

namespace Stretch

variable (s : Stretch)

/-- The number of coordinates still to be visited. -/
def left : Nat := if s.isOver then 0 else (s.last.toInt - s.next.toInt + 1).toNat

/-- The next coordinate, unless there is none left, and the stretch from there on. -/
def step? : Option (Int32 × Stretch) :=
  if s.isOver ∨ ¬ s.next ≤ s.last then none
  else if s.next < s.last then some (s.next, { s with next := s.next + 1 })
  else some (s.next, { s with isOver := true })

/-- A coordinate that is not the last one is followed by another. -/
theorem toInt_add_one {k last : Int32} (h : k < last) : (k + 1).toInt = k.toInt + 1 := by
  have hk : k.toInt < last.toInt := Int32.lt_iff_toInt_lt.1 h
  have hleast := k.le_toInt
  have hlast := last.toInt_lt
  rw [Int32.toInt_add, Int32.toInt_one]
  exact Int.bmod_eq_of_le_mul_two (by omega) (by omega)

variable {s} {s' : Stretch} {k : Int32}

/-- A step visits the next coordinate, and the one after it is next, if there is one. -/
theorem step?_eq_some_iff : s.step? = some (k, s') ↔ s.isOver = false ∧ k = s.next ∧
    (s.next < s.last ∧ s' = { s with next := s.next + 1 } ∨
      s.next = s.last ∧ s' = { s with isOver := true }) := by
  rw [step?]
  constructor
  · intro h
    split at h
    case isTrue => cases h
    case isFalse hstep =>
      obtain ⟨hover, hle⟩ := not_or.1 hstep
      refine ⟨Bool.eq_false_iff.2 hover, ?_⟩
      split at h
      case isTrue hlt =>
        obtain ⟨rfl, rfl⟩ := Prod.mk.inj (Option.some.inj h)
        exact ⟨rfl, .inl ⟨hlt, rfl⟩⟩
      case isFalse hlt =>
        obtain ⟨rfl, rfl⟩ := Prod.mk.inj (Option.some.inj h)
        exact ⟨rfl, .inr ⟨Int32.le_antisymm (Decidable.not_not.1 hle) (Int32.not_lt.1 hlt), rfl⟩⟩
  · rintro ⟨hover, rfl, ⟨hlt, rfl⟩ | ⟨heq, rfl⟩⟩
    · simp [hover, hlt, Int32.le_of_lt hlt]
    · simp [hover, heq]

/-- With each step, less is left. -/
theorem left_of_step? (h : s.step? = some (k, s')) : s'.left < s.left := by
  obtain ⟨hover, -, ⟨hlt, rfl⟩ | ⟨heq, rfl⟩⟩ := step?_eq_some_iff.1 h
  · have := Int32.lt_iff_toInt_lt.1 hlt
    simp only [left, hover, toInt_add_one hlt, Bool.false_eq_true, if_false]
    omega
  · simp only [left, hover, heq, Bool.false_eq_true, if_false, if_true]
    omega

end Stretch

/-- The cells of a region, row by row, under way. -/
structure Walk where
  /-- The columns of every row, from the beginning. -/
  cols : Stretch
  /-- The rows still to be visited. -/
  rows : Stretch
  /-- The row that is being visited. -/
  row : Int32
  /-- The columns of it still to be visited. -/
  here : Stretch
  deriving DecidableEq, Repr

namespace Walk

/-- The next cell, unless there is none left, and the walk from there on. -/
def next (w : Walk) : Option Cell × Walk :=
  match w.here.step? with
  | some (col, here) => (some ⟨col, w.row⟩, { w with here })
  | none =>
    match _h : w.rows.step? with
    | some (row, rows) => next { w with rows, row, here := w.cols }
    | none => (none, w)
termination_by w.rows.left
decreasing_by exact Stretch.left_of_step? _h

end Walk

namespace Region

/-- A walk through a region from the beginning, before its first row. -/
def walk (r : Region) : Walk where
  cols := ⟨r.lower.col, r.upper.col, false⟩
  rows := ⟨r.lower.row, r.upper.row, false⟩
  row := r.lower.row
  here := ⟨r.lower.col, r.upper.col, true⟩

end Region

end Broadphase
