import Broadphase.Tracker.Run

/-!
# Sessions

A tracker at work. `Tracker` says where a round leads to; a session goes there,
by changing what it holds, one thing after another:

* the tracker, whose grid is brought up to date one object at a time;
* the lists that a round works with (`Workspace`), which are kept from one round
  to the next so that their storage is used again, and emptied before they are
  filled;
* what the listeners have been told so far.

Work on a session may fail, and nothing is then put back: what has been changed
until then stays changed (`Work`). A round that is given a shape that cannot be
placed fails before it has changed anything but its list of updates. After that
it changes the grid in steps of which each may fail, for all that the step knows.
-/

namespace Broadphase

/-- The lists that a round works with, with what the latest round has left in them. -/
structure Workspace (ι S : Type) [Handle ι] where
  /-- The updates of the round. -/
  pending : List (Update ι S)
  /-- The handles that are updated. -/
  live : Std.ExtTreeSet ι
  /-- The handles that are not. -/
  departed : List ι
  /-- The candidates that are to be spread over workers. -/
  candidates : List (Pair ι)
  /-- The pairs that are confirmed. -/
  confirmed : List (Pair ι)

/-- A tracker at work. -/
structure Session (ι S : Type) [Handle ι] where
  /-- The tracker. -/
  tracker : Tracker ι S
  /-- The lists that rounds work with. -/
  workspace : Workspace ι S
  /-- Everything that the listeners have been told, in order. -/
  told : List (Delivery ι)

/-- Some work on a session. If it fails, what it has changed stays changed. -/
abbrev Work (ι S : Type) [Handle ι] := EStateM (GridError ι) (Session ι S)

variable {ι S : Type} [Handle ι] [Scalar S]

/-- Lists that have not been used. -/
def Workspace.empty : Workspace ι S := ⟨[], ∅, [], [], []⟩

namespace Session

/-- A session that begins. -/
def start (t : Tracker ι S) : Session ι S := ⟨t, .empty, []⟩

/-! ## Bringing the grid up to date -/

/-- Change the lists of the workspace. -/
def arrange (change : Workspace ι S → Workspace ι S) : Work ι S Unit :=
  modify fun s => { s with workspace := change s.workspace }

/-- Carry out an action on the grid. -/
def act (action : Action ι S) : Work ι S Unit := do
  match (← get).tracker.grid.perform action with
  | .ok (_, grid) => modify fun s => { s with tracker := { s.tracker with grid } }
  | .error e => throw e

/-- Give an object its shape, whether it is there already or not. -/
def place (update : Update ι S) : Work ι S Unit := do
  arrange fun w => { w with live := w.live.insert update.1 }
  act ((← get).tracker.grid.actionFor update)

/-- Remove the objects that have not been updated. -/
def dismiss : Work ι S Unit := do
  arrange fun w => { w with departed := [] }
  let grid := (← get).tracker.grid
  arrange fun w => { w with departed := w.departed ++ grid.handles.filter (· ∉ w.live) }
  (← get).workspace.departed.forM fun id => act (.remove id)

/-- Bring the grid up to date. -/
def refresh (updates : List (Update ι S)) : Work ι S Unit := do
  arrange fun w => { w with pending := [] }
  arrange fun w => { w with pending := w.pending ++ updates }
  let s ← get
  match s.tracker.grid.unplaceable? s.workspace.pending with
  | some (id, _) => throw (.unplaceableShape id)
  | none =>
    arrange fun w => { w with live := ∅ }
    s.workspace.pending.forM place
    dismiss

/-! ## Rounds -/

/-- Scan the grid for candidates. -/
def scan : Work ι S (List (Pair ι)) := do
  let t := (← get).tracker
  let (candidates, scan) := (t.scanner.scan t.grid).finish
  modify fun s => { s with tracker := { s.tracker with scanner := scan.scanner } }
  return candidates

/-- Test a candidate, and keep it if it is confirmed. -/
def test (p : Pair ι) : Work ι S Unit := do
  let t := (← get).tracker
  if Tracker.confirms t.phase t.grid p then
    arrange fun w => { w with confirmed := w.confirmed ++ [p] }

/-- End a round: update the contacts, and tell the listeners. -/
def conclude (candidates : List (Pair ι)) : Work ι S (Report ι) := do
  let s ← get
  let t := s.tracker
  let (tracker, report) := t.conclude t.grid t.scanner candidates s.workspace.confirmed
  set { s with tracker, told := s.told ++ report.deliveries }
  return report

/-- A round in which the candidates are tested one after the other. -/
def tick (updates : List (Update ι S)) : Work ι S (Report ι) := do
  refresh updates
  let candidates ← scan
  arrange fun w => { w with confirmed := [] }
  candidates.forM test
  conclude candidates

/-- A round in which the candidates are spread over workers. -/
def tickParallel (schedule : Schedule ι) (updates : List (Update ι S)) : Work ι S (Report ι) := do
  refresh updates
  let found ← scan
  arrange fun w => { w with candidates := [] }
  arrange fun w => { w with candidates := w.candidates ++ found }
  let s ← get
  let candidates := s.workspace.candidates
  let collected := schedule.run (Tracker.confirms s.tracker.phase s.tracker.grid) candidates
  arrange fun w => { w with confirmed := [] }
  arrange fun w => { w with confirmed := w.confirmed ++ collected }
  conclude candidates

/-! ## Turns -/

/-- Take a turn, and return the round, if the turn is one. -/
def take : Turn ι S → Work ι S (Option (Round ι S))
  | .listen listener => do
    modify fun s => { s with tracker := s.tracker.listen listener }
    return none
  | .tick updates => do
    let report ← tick updates
    return some ⟨updates, report⟩
  | .tickParallel schedule updates => do
    let report ← tickParallel schedule updates
    return some ⟨updates, report⟩

variable (s : Session ι S)

/-- The answer to a turn. -/
def answer (turn : Turn ι S) : Except (GridError ι) (Option (Round ι S)) :=
  match (take turn).run s with
  | .ok round _ => .ok round
  | .error e _ => .error e

/-- The session after a turn, whether it fails or not. -/
def after (turn : Turn ι S) : Session ι S :=
  match (take turn).run s with
  | .ok _ s' => s'
  | .error _ s' => s'

/-- The session after some turns, whether they fail or not. -/
def run (turns : List (Turn ι S)) : Session ι S := turns.foldl after s

/-- The answers to some turns, in order. -/
def answers (s : Session ι S) : List (Turn ι S) → List (Except (GridError ι) (Option (Round ι S)))
  | [] => []
  | turn :: turns => s.answer turn :: (s.after turn).answers turns

/-- Some turns without those that fail. -/
def successful (s : Session ι S) : List (Turn ι S) → List (Turn ι S)
  | [] => []
  | turn :: turns =>
    (if (s.answer turn).isOk then [turn] else []) ++ (s.after turn).successful turns

end Session

end Broadphase
