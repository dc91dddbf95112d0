import Broadphase.Grid.Query
import Broadphase.Grid.Refresh
import Broadphase.Grid.Scan
import Broadphase.Listener
import Broadphase.NarrowPhase

/-!
# Trackers

A tracker finds out, round by round, which pairs of objects interact. Each round
is given all the objects that there are, and a round has three parts:

* the grid is brought up to date (`Grid.refresh`);
* the candidates of the grid are tested: those whose shapes share a group are put
  to the narrow phase, and the ones it confirms interact;
* the contacts are updated, and the changes delivered to the listeners.

A round fails if a shape cannot be placed. Then nothing changes, and no listener
is told anything.

The tests do not depend on each other, so they can be spread over workers
(`Tracker.tickParallel` in `Broadphase.Tracker.Parallel`).
-/

namespace Broadphase

/-- Tracks which pairs of objects interact. -/
structure Tracker (ι S : Type) [Handle ι] where
  /-- The objects of the latest round. -/
  grid : Grid ι S
  /-- The memory of the scans for candidates. -/
  scanner : Scanner ι
  /-- The test of candidates. -/
  phase : NarrowPhase ι S
  /-- The pairs that interact. -/
  contacts : Contacts ι
  /-- Who is told of changes, in the order of joining. -/
  listeners : List Listener
  /-- The number of rounds that did not fail. -/
  rounds : Nat

/-- What is to be told of one round. -/
structure Report (ι : Type) [Handle ι] where
  /-- What has changed. -/
  changes : Changes ι
  /-- What the listeners are told. -/
  deliveries : List (Delivery ι)
  /-- The candidates that were put to the narrow phase. -/
  tested : List (Pair ι)
  /-- The figures of the round. -/
  summary : Summary
  deriving DecidableEq

variable {ι S : Type} [Handle ι] [Scalar S]

namespace Tracker

/-! ## Construction -/

/-- A tracker with these settings, if they will do for the narrow phase. -/
def build (settings : Settings S) (phase : NarrowPhase ι S) :
    Except (SettingsError S) (Tracker ι S) := do
  settings.check phase.reach
  return ⟨.empty settings.cellSize, .new, phase, .new, [], 0⟩

/-- A tracker of objects that overlap, read as disks. -/
def new (cellSize : S) : Except (SettingsError S) (Tracker ι S) :=
  build { cellSize } .radiusOverlap

variable (t : Tracker ι S)

/-- A listener joins. -/
def listen (listener : Listener) : Tracker ι S :=
  { t with listeners := t.listeners ++ [listener] }

/-! ## Testing candidates -/

/-- Whether the narrow phase is asked about a pair: both shapes are known, and share a group. -/
def asks (g : Grid ι S) (p : Pair ι) : Bool :=
  match g.shape? p.lo, g.shape? p.hi with
  | some a, some b => a.groups.shares b.groups
  | _, _ => false

/-- Whether a pair interacts. -/
def confirms (phase : NarrowPhase ι S) (g : Grid ι S) (p : Pair ι) : Bool :=
  match g.shape? p.lo, g.shape? p.hi with
  | some a, some b => a.groups.shares b.groups && phase.confirms p a b
  | _, _ => false

/-! ## Rounds -/

/-- The end of a round, after which these are the contacts. -/
def concludeWith (contacts : Contacts ι) (grid : Grid ι S) (scanner : Scanner ι)
    (candidates confirmed : List (Pair ι)) : Tracker ι S × Report ι :=
  let changes := contacts.changes
  let rounds := t.rounds + 1
  ({ t with grid, scanner, contacts, rounds },
    { changes
      deliveries := Listener.deliveries t.listeners changes
      tested := candidates.filter (asks grid)
      summary := {
        round := rounds
        objects := grid.size
        cells := grid.occupiedCount
        candidates := candidates.length
        confirmed := confirmed.length
        started := changes.started.length
        ongoing := changes.ongoing.length
        ended := changes.ended.length } })

/-- End a round: the grid is up to date, and its candidates have been tested. -/
def conclude (grid : Grid ι S) (scanner : Scanner ι) (candidates confirmed : List (Pair ι)) :
    Tracker ι S × Report ι :=
  t.concludeWith (t.contacts.update confirmed) grid scanner candidates confirmed

/-- A round in which the candidates are tested as `test` does it, given the test of one pair. -/
def tickWith (test : (Pair ι → Bool) → List (Pair ι) → List (Pair ι))
    (updates : List (Update ι S)) : Except (GridError ι) (Tracker ι S × Report ι) := do
  let grid ← t.grid.refresh updates
  let (candidates, scan) := (t.scanner.scan grid).finish
  return t.conclude grid scan.scanner candidates (test (confirms t.phase grid) candidates)

/-- A round in which the candidates are tested one after the other. -/
def tick (updates : List (Update ι S)) : Except (GridError ι) (Tracker ι S × Report ι) :=
  t.tickWith List.filter updates

/-! ## Journal -/

/-- The entries on a round that is about to begin, given its report if it does not fail. -/
def journal (updates : List (Update ι S)) (report : Report ι) : List (Entry ι) :=
  t.grid.journalRefresh updates ++ [.round report.summary]

end Tracker

end Broadphase
