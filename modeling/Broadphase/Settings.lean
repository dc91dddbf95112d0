import Broadphase.Error
import Broadphase.Scalar

/-!
# Settings

What a tracker is built from: the cell size of its grid, and how many objects
and pairs to expect, which are hints and change no answer.

Settings are checked against the reach of a narrow phase (`Settings.check`). The
reach is looked at first, by itself and then beside the cell size; only then is
the cell size looked at by itself.
-/

namespace Broadphase

/-- What a tracker is built from. -/
structure Settings (S : Type) where
  /-- The width and height of a cell. -/
  cellSize : S
  /-- How many objects to expect. -/
  objectCapacity : Option UInt64 := none
  /-- How many pairs to expect. -/
  pairCapacity : Option UInt64 := none
  deriving DecidableEq, Repr

variable {S : Type} [Scalar S]

/-- A cell size is finite and above zero. -/
def checkCellSize (cellSize : S) : Except (SettingsError S) Unit :=
  if Scalar.isFinite cellSize ∧ 0 < cellSize then pure ()
  else throw (.invalidCellSize cellSize)

namespace Settings

/-- Whether a grid with these settings can serve a narrow phase of the given reach. -/
def check (c : Settings S) (reach : S) : Except (SettingsError S) Unit :=
  if ¬ (Scalar.isFinite reach ∧ 0 ≤ reach) then throw (.invalidReach reach)
  else if c.cellSize < reach then throw (.reachExceedsCellSize reach c.cellSize)
  else checkCellSize c.cellSize

end Settings

end Broadphase
