import Broadphase.Label

/-!
# Errors

What can be wrong with a request: the settings that a grid or a tracker is built
from (`SettingsError`), or the handle or shape of an operation (`GridError`). An
operation that fails changes nothing.
-/

namespace Broadphase

/-- Why a grid or a tracker cannot be built. -/
inductive SettingsError (S : Type)
  /-- The cell size is infinite, not a number, or not above zero. -/
  | invalidCellSize (cellSize : S)
  /-- The reach of the narrow phase is infinite, not a number, or below zero. -/
  | invalidReach (reach : S)
  /-- The narrow phase may confirm pairs that are not in adjacent cells. -/
  | reachExceedsCellSize (reach cellSize : S)
  deriving DecidableEq, Repr

namespace SettingsError

variable {S : Type} [Label S]

/-- What is said about a setting. -/
def message : SettingsError S → String
  | invalidCellSize size => "invalid configuration: cell size must be finite and positive (got " ++
      label size ++ ")"
  | invalidReach reach => "invalid configuration: narrow phase reach must be finite and " ++
      "non-negative (got " ++ label reach ++ ")"
  | reachExceedsCellSize reach size => "invalid configuration: narrow phase reach " ++
      label reach ++ " exceeds cell size " ++ label size

end SettingsError

/-- Why an operation on a grid fails. -/
inductive GridError (ι : Type)
  /-- The handle to insert is there already. -/
  | duplicateHandle (id : ι)
  /-- The handle to move, remove or ask about is not there. -/
  | unknownHandle (id : ι)
  /-- The shape is not valid, or it is beyond the edges of the grid. -/
  | unplaceableShape (id : ι)
  deriving DecidableEq, Repr

namespace GridError

variable {ι : Type} [Label ι]

/-- What is said about a handle. -/
def message : GridError ι → String
  | duplicateHandle id => "handle " ++ label id ++ " is already registered"
  | unknownHandle id => "handle " ++ label id ++ " is not registered"
  | unplaceableShape id => "shape for handle " ++ label id ++ " cannot be placed on the grid"

end GridError

end Broadphase
