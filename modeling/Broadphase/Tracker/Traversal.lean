import Broadphase.Contacts.Sweep
import Broadphase.Tracker.Run

/-!
# Traversals

A tracker keeps its objects, its occupied cells and its records in no order of
their own. In `Tracker.tickWith` a round goes through them in ascending order; it
may as well go through them in others, which the next round need not follow. A
*traversal* fixes the orders of one round:

* that of the objects, in which those that have departed are found and removed;
* that of the occupied cells, in which a scan visits them;
* that of the records, in which the round ends (`Sweep`).

The handles in a cell have an order, and keep it: it is the one that entering and
leaving gave them (`Members`). So it depends on the traversals of earlier rounds.
-/

namespace Broadphase

/-- The orders in which a round goes through what a tracker keeps. -/
structure Traversal (ι S : Type) [Handle ι] where
  /-- The objects of a grid, in the order in which those that have departed are removed. -/
  objects : Grid ι S → List ι
  /-- They are the objects there are. -/
  objects_perm : ∀ g, (objects g).Perm g.handles
  /-- The occupied cells of a grid, in the order in which a scan visits them. -/
  cells : Grid ι S → List Cell
  /-- They are the occupied cells there are. -/
  cells_perm : ∀ g, (cells g).Perm g.occupiedCells
  /-- The order in which records are visited at the end of the round. -/
  sweep : Sweep ι

variable {ι S : Type} [Handle ι] [Scalar S]

omit [Scalar S] in
/-- Everything in ascending order. -/
def Traversal.ascending : Traversal ι S where
  objects := Grid.handles
  objects_perm _ := .refl _
  cells := Grid.occupiedCells
  cells_perm _ := .refl _
  sweep := ⟨fun c => c.records.toList, fun _ => .refl _⟩

variable (traversal : Traversal ι S)

namespace Grid

/-- The handles that no update mentions. -/
def departedBy (g : Grid ι S) (updates : List (Update ι S)) : List ι :=
  let live := Std.ExtTreeSet.ofList (updates.map (·.1))
  (traversal.objects g).filter (· ∉ live)

/-- Bring the grid up to date. -/
def refreshBy (g : Grid ι S) (updates : List (Update ι S)) : Except (GridError ι) (Grid ι S) :=
  match g.unplaceable? updates with
  | some (id, _) => throw (.unplaceableShape id)
  | none => do
    let placed ← g.placeAll updates
    placed.removeAll (placed.departedBy traversal updates)

end Grid

/-- A scan of a grid. -/
def Scanner.scanBy (scanner : Scanner ι) (g : Grid ι S) : Scan ι :=
  scanner.scanCells (fun c => (g.cells.members c).ids) (traversal.cells g)

namespace Tracker

variable (t : Tracker ι S)

/-- A round in which the candidates are tested as `test` does it, given the test of one pair. -/
def tickBy (test : (Pair ι → Bool) → List (Pair ι) → List (Pair ι))
    (updates : List (Update ι S)) : Except (GridError ι) (Tracker ι S × Report ι) := do
  let grid ← t.grid.refreshBy traversal updates
  let (candidates, scan) := (t.scanner.scanBy traversal grid).finish
  let confirmed := test (confirms t.phase grid) candidates
  return t.concludeWith (t.contacts.updateBy traversal.sweep confirmed) grid scan.scanner candidates
    confirmed

/-- Take a turn. Also returned is the round, if the turn is one. -/
def takeBy : Turn ι S → Except (GridError ι) (Tracker ι S × Option (Round ι S))
  | .listen listener => return (t.listen listener, none)
  | .tick updates =>
    (fun (t, report) => (t, some ⟨updates, report⟩)) <$> t.tickBy traversal List.filter updates
  | .tickParallel schedule updates =>
    (fun (t, report) => (t, some ⟨updates, report⟩)) <$> t.tickBy traversal schedule.run updates

/-- The tracker after a turn. One that fails leaves the tracker as it was. -/
def afterBy (turn : Turn ι S) : Tracker ι S :=
  match t.takeBy traversal turn with
  | .ok (t', _) => t'
  | .error _ => t

/-- The answers to some turns, in order, each with a traversal of its own. -/
def answersBy (t : Tracker ι S) :
    List (Traversal ι S × Turn ι S) → List (Except (GridError ι) (Option (Round ι S)))
  | [] => []
  | (traversal, turn) :: turns =>
    ((·.2) <$> t.takeBy traversal turn) :: (t.afterBy traversal turn).answersBy turns

/-- The tracker after some turns, each with a traversal of its own. -/
def runBy (turns : List (Traversal ι S × Turn ι S)) : Tracker ι S :=
  turns.foldl (fun t (traversal, turn) => t.afterBy traversal turn) t

end Tracker

end Broadphase
