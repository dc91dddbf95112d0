import Broadphase.Grid.Action

/-!
# Grids changed in place

`Grid.perform` says which grid an action leads to. Here the same actions are
carried out on one grid, by changing it step by step: one cell or one object at a
time.

Such an edit may fail, and nothing is then put back: what it has changed until
then stays changed (`Edit`). Relocating notes the new shape before it looks at
the cells, and is done if they are the old ones.
-/

namespace Broadphase.Grid

/-- Some work on a grid. If it fails, what it has changed stays changed. -/
abbrev Edit (ι S : Type) [Handle ι] := EStateM (GridError ι) (Grid ι S)

variable {ι S : Type} [Handle ι] [Scalar S]

namespace InPlace

/-! ## Steps -/

/-- A handle enters a cell. -/
def enter (id : ι) (c : Cell) : Edit ι S Unit :=
  modify fun g => { g with cells := g.cells.enter id c }

/-- A handle leaves a cell. -/
def leave (id : ι) (c : Cell) : Edit ι S Unit :=
  modify fun g => { g with cells := g.cells.leave id c }

/-- Note what is known of an object. -/
def note (id : ι) (o : Occupancy S) : Edit ι S Unit :=
  modify fun g => { g with objects := g.objects.insert id o }

/-- Forget an object. -/
def forget (id : ι) : Edit ι S Unit := modify fun g => { g with objects := g.objects.erase id }

/-! ## Actions -/

/-- Add an object. -/
def insert (id : ι) (shape : Shape S) : Edit ι S Unit := do
  let g ← get
  if id ∈ g then throw (.duplicateHandle id)
  else match g.regionFor? shape with
    | none => throw (.unplaceableShape id)
    | some region =>
      region.cells.forM (enter id)
      note id ⟨shape, region⟩

/-- Remove an object, and return its last shape. -/
def remove (id : ι) : Edit ι S (Shape S) := do
  match (← get).objects[id]? with
  | none => throw (.unknownHandle id)
  | some ⟨shape, region⟩ =>
    forget id
    region.cells.forM (leave id)
    return shape

/-- Give an object a new shape, and return whether its cells have changed. -/
def relocate (id : ι) (shape : Shape S) : Edit ι S Bool := do
  let g ← get
  match g.objects[id]? with
  | none => throw (.unknownHandle id)
  | some ⟨_, old⟩ => match g.regionFor? shape with
    | none => throw (.unplaceableShape id)
    | some new =>
      note id ⟨shape, old⟩
      if old = new then return false
      else
        note id ⟨shape, new⟩
        (old.cells.filter (· ∉ new)).forM (leave id)
        (new.cells.filter (· ∉ old)).forM (enter id)
        return true

/-- Remove every object. -/
def clear : Edit ι S Unit := modify Grid.clear

/-- Carry out an action. -/
def perform : Action ι S → Edit ι S (Reply S)
  | .insert id shape => do
    insert id shape
    return .done
  | .remove id => do
    let last ← remove id
    return .removed last
  | .relocate id shape => do
    let cellsChanged ← relocate id shape
    return .relocated cellsChanged
  | .clear => do
    clear
    return .done

/-! ## Runs -/

/-- What a grid answers to an action. -/
def answer (g : Grid ι S) (a : Action ι S) : Except (GridError ι) (Reply S) :=
  match (perform a).run g with
  | .ok reply _ => .ok reply
  | .error e _ => .error e

/-- The grid after an action, whether it fails or not. -/
def after (g : Grid ι S) (a : Action ι S) : Grid ι S :=
  match (perform a).run g with
  | .ok _ g' => g'
  | .error _ g' => g'

/-- The grid after some actions in turn, whether they fail or not. -/
def run (g : Grid ι S) (actions : List (Action ι S)) : Grid ι S := actions.foldl after g

/-- The answers to some actions in turn. -/
def answers (g : Grid ι S) : List (Action ι S) → List (Except (GridError ι) (Reply S))
  | [] => []
  | a :: actions => answer g a :: answers (after g a) actions

end InPlace

end Broadphase.Grid
