import Broadphase.Grid.Action

/-!
# Refreshing a grid

A round gives the shapes of all objects there are. Refreshing a grid brings it
up to date with such a list of updates:

* if a shape in the list cannot be placed, nothing happens, and the first such
  update is to blame, even if a later one overrides it;
* the updates are applied in the order of the list, so the last one for a handle
  is the one that counts;
* the objects that are not in the list have departed, and are removed.
-/

namespace Broadphase

/-- The handle of an object and its shape in this round. -/
abbrev Update (ι S : Type) := ι × Shape S

namespace Grid

variable {ι S : Type} [Handle ι] [Scalar S]

/-- The first update whose shape cannot be placed. -/
def unplaceable? (g : Grid ι S) (updates : List (Update ι S)) : Option (Update ι S) :=
  updates.find? fun (_, shape) => (g.regionFor? shape).isNone

/-- The handles that no update mentions. -/
def departed (g : Grid ι S) (updates : List (Update ι S)) : List ι :=
  let live := Std.ExtTreeSet.ofList (updates.map (·.1))
  g.handles.filter (· ∉ live)

/-- The action that an update asks for. -/
def actionFor (g : Grid ι S) : Update ι S → Action ι S
  | (id, shape) => if id ∈ g then .relocate id shape else .insert id shape

/-- Apply updates in turn. -/
def placeAll (g : Grid ι S) (updates : List (Update ι S)) : Except (GridError ι) (Grid ι S) :=
  updates.foldlM (fun g u => (·.2) <$> g.perform (g.actionFor u)) g

/-- Remove objects in turn. -/
def removeAll (g : Grid ι S) (ids : List ι) : Except (GridError ι) (Grid ι S) :=
  ids.foldlM (fun g id => (·.2) <$> g.remove id) g

/-- Bring the grid up to date. -/
def refresh (g : Grid ι S) (updates : List (Update ι S)) : Except (GridError ι) (Grid ι S) :=
  match g.unplaceable? updates with
  | some (id, _) => throw (.unplaceableShape id)
  | none => do
    let placed ← g.placeAll updates
    placed.removeAll (placed.departed updates)

/-! ## Journal -/

/-- The entries on actions that are about to be carried out in turn, each one chosen in the light of
    the grid before it. -/
def journalTurns {α : Type} (choose : Grid ι S → α → Action ι S) :
    Grid ι S → List α → List (Entry ι)
  | _, [] => []
  | g, x :: xs =>
    g.journal (choose g x) ++
      match g.perform (choose g x) with
      | .ok (_, g') => journalTurns choose g' xs
      | .error _ => []

/-- The entries on a grid that is about to be brought up to date. -/
def journalRefresh (g : Grid ι S) (updates : List (Update ι S)) : List (Entry ι) :=
  match g.unplaceable? updates, g.placeAll updates with
  | none, .ok placed =>
    let departed := placed.departed updates
    journalTurns actionFor g updates ++ journalTurns (fun _ id => .remove id) placed departed ++
      departed.map .departed
  | _, _ => []

end Grid

end Broadphase
