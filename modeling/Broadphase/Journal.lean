import Broadphase.Label
import Broadphase.Region

/-!
# Journals

What happens to a grid and its tracker can be followed in a journal. An entry
says what happened; its line is the level of importance and a text, in which
handles and regions are given by their labels.
-/

namespace Broadphase

/-- How important an entry is. -/
inductive Level
  | trace
  | debug
  | warn
  deriving DecidableEq, Repr

/-- The word for a level at the start of a line. -/
def Level.text : Level → String
  | trace => "TRACE"
  | debug => "DEBUG"
  | warn => "WARN"

/-- The figures of one round. -/
structure Summary where
  /-- The number of the round, counted from one. -/
  round : Nat
  /-- The number of objects. -/
  objects : Nat
  /-- The number of occupied cells. -/
  cells : Nat
  /-- The number of pairs that the scan proposed. -/
  candidates : Nat
  /-- The number of pairs that interact. -/
  confirmed : Nat
  /-- The number of those that did not interact the round before. -/
  started : Nat
  /-- The number of those that did. -/
  ongoing : Nat
  /-- The number of pairs that no longer interact. -/
  ended : Nat
  deriving DecidableEq, Repr

/-- Something that happened. -/
inductive Entry (ι : Type)
  /-- An object was added. -/
  | inserted (id : ι) (region : Region)
  /-- An object was removed. -/
  | removed (id : ι) (region : Region)
  /-- An object went from one region to another. -/
  | relocated (id : ι) (old new : Region)
  /-- An object was removed because a round did not mention it. -/
  | departed (id : ι)
  /-- An object occupies so many cells that the cell size may be too small. -/
  | large (id : ι) (cells : UInt64)
  /-- A round ended. -/
  | round (summary : Summary)
  deriving DecidableEq, Repr

namespace Entry

variable {ι : Type}

/-- The number of cells that an object can occupy without being remarked on. -/
def unremarkable : UInt64 := 16

/-- The remark on the size of an object, if there is one. -/
def ofSize (id : ι) (region : Region) : List (Entry ι) :=
  if unremarkable < region.count then [.large id region.count] else []

/-- Only size is worth a warning. -/
def level : Entry ι → Level
  | large .. => .warn
  | round .. => .debug
  | _ => .trace

variable [Label ι]

/-- What an entry says. -/
def text : Entry ι → String
  | inserted id region => "inserted " ++ label id ++ " into " ++ label region
  | removed id region => "removed " ++ label id ++ " from " ++ label region
  | relocated id old new =>
    "relocated " ++ label id ++ " from " ++ label old ++ " to " ++ label new
  | departed id => "deregistered " ++ label id
  | large id cells => label id ++ " spans " ++ toString cells ++
      " cells; increase the cell size or split large objects"
  | round s => "tick " ++ label s.round ++ ": " ++ label s.objects ++ " objects in " ++
      label s.cells ++ " cells, " ++ label s.candidates ++ " candidates, " ++ label s.confirmed ++
      " confirmed (" ++ label s.started ++ " started, " ++ label s.ongoing ++ " ongoing, " ++
      label s.ended ++ " ended)"

/-- The line of an entry. -/
def line (e : Entry ι) : String := e.level.text ++ " " ++ e.text

end Entry

end Broadphase
