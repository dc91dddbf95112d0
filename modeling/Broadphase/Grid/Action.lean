import Broadphase.Grid
import Broadphase.Journal

/-!
# Actions on a grid

The changes that can be asked of a grid, as data: what they answer, which grid
they lead to (`Grid.perform`), and what they leave in the journal
(`Grid.journal`). An action that fails leaves nothing there.
-/

namespace Broadphase

/-- A change that is asked of a grid. -/
inductive Action (ι S : Type)
  /-- Add an object. -/
  | insert (id : ι) (shape : Shape S)
  /-- Remove an object. -/
  | remove (id : ι)
  /-- Give an object a new shape. -/
  | relocate (id : ι) (shape : Shape S)
  /-- Remove every object. -/
  | clear
  deriving DecidableEq, Repr

/-- What an action answers. -/
inductive Reply (S : Type)
  /-- It is done. -/
  | done
  /-- An object is gone, and this was its shape. -/
  | removed (shape : Shape S)
  /-- An object has a new shape, and its cells have changed or not. -/
  | relocated (cellsChanged : Bool)
  deriving DecidableEq, Repr

namespace Grid

variable {ι S : Type} [Handle ι] [Scalar S] (g : Grid ι S)

/-- Carry out an action. -/
def perform : Action ι S → Except (GridError ι) (Reply S × Grid ι S)
  | .insert id shape => (.done, ·) <$> g.insert id shape
  | .remove id => (fun (shape, g) => (.removed shape, g)) <$> g.remove id
  | .relocate id shape => (fun (changed, g) => (.relocated changed, g)) <$> g.relocate id shape
  | .clear => return (.done, g.clear)

/-- The grid after an action. One that fails leaves the grid as it was. -/
def after (a : Action ι S) : Grid ι S :=
  match g.perform a with
  | .ok (_, g') => g'
  | .error _ => g

/-- The grid after some actions in turn, whether they fail or not. -/
def run (actions : List (Action ι S)) : Grid ι S := actions.foldl after g

/-- The entries on an object that goes from one region to another, or from nowhere or to nowhere. -/
def journalMove (id : ι) : Option Region → Option Region → List (Entry ι)
  | none, some new => Entry.ofSize id new ++ [.inserted id new]
  | some old, none => [.removed id old]
  | some old, some new =>
    if old = new then [] else Entry.ofSize id new ++ [.relocated id old new]
  | none, none => []

/-- The entries on an action that is about to be carried out: they follow from the regions of its
    object before and after it. Clearing leaves none. -/
def journal (a : Action ι S) : List (Entry ι) :=
  match a, g.perform a with
  | .insert id _, .ok (_, g') | .remove id, .ok (_, g') | .relocate id _, .ok (_, g') =>
    journalMove id (g.region? id) (g'.region? id)
  | .clear, _ | _, .error _ => []

end Grid

end Broadphase
