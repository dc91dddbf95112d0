import Broadphase.Tracker.Parallel

/-!
# Runs of a tracker

What can be asked of a tracker between two looks at it, as data (`Turn`), and
where a number of turns lead to (`Tracker.run`). A turn that fails leaves the
tracker as it was, and is not in its history.
-/

namespace Broadphase

/-- What is asked of a tracker. -/
inductive Turn (ι S : Type) [Handle ι]
  /-- A listener joins. -/
  | listen (listener : Listener)
  /-- A round in which the candidates are tested one after the other. -/
  | tick (updates : List (Update ι S))
  /-- A round in which the candidates are spread over workers. -/
  | tickParallel (schedule : Schedule ι) (updates : List (Update ι S))

/-- A round that did not fail. -/
structure Round (ι S : Type) [Handle ι] where
  /-- The shapes that it was given. -/
  updates : List (Update ι S)
  /-- What was told of it. -/
  report : Report ι

variable {ι S : Type} [Handle ι] [Scalar S]

/-- The shapes that a turn gives. -/
def Turn.updates : Turn ι S → List (Update ι S)
  | .listen _ => []
  | .tick updates | .tickParallel _ updates => updates

/-- The same turn, but with candidates tested one after the other. -/
def Turn.serial : Turn ι S → Turn ι S
  | .listen listener => .listen listener
  | .tick updates => .tick updates
  | .tickParallel _ updates => .tick updates

namespace Tracker

variable (t : Tracker ι S)

/-- Take a turn. Also returned is the round, if the turn is one. -/
def take : Turn ι S → Except (GridError ι) (Tracker ι S × Option (Round ι S))
  | .listen listener => return (t.listen listener, none)
  | .tick updates =>
    (fun (t, report) => (t, some ⟨updates, report⟩)) <$> t.tick updates
  | .tickParallel schedule updates =>
    (fun (t, report) => (t, some ⟨updates, report⟩)) <$> t.tickParallel schedule updates

/-- The tracker after a turn. One that fails leaves the tracker as it was. -/
def after (turn : Turn ι S) : Tracker ι S :=
  match t.take turn with
  | .ok (t', _) => t'
  | .error _ => t

/-- The round that a turn is, unless it fails. -/
def round? (turn : Turn ι S) : Option (Round ι S) :=
  match t.take turn with
  | .ok (_, round) => round
  | .error _ => none

/-- The answers to some turns, in order. -/
def answers (t : Tracker ι S) : List (Turn ι S) → List (Except (GridError ι) (Option (Round ι S)))
  | [] => []
  | turn :: turns => ((·.2) <$> t.take turn) :: (t.after turn).answers turns

/-- The tracker after some turns, whether they fail or not. -/
def run (turns : List (Turn ι S)) : Tracker ι S := turns.foldl after t

/-- The rounds among some turns that do not fail, in order. -/
def history (t : Tracker ι S) : List (Turn ι S) → List (Round ι S)
  | [] => []
  | turn :: turns => (t.round? turn).toList ++ (t.after turn).history turns

/-- The shapes that were given in the latest round that did not fail, or none before the first. -/
def latest (turns : List (Turn ι S)) : List (Update ι S) :=
  ((t.history turns).map (·.updates)).getLastD []

end Tracker

end Broadphase
