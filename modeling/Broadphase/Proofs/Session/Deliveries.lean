import Broadphase.Proofs.Listener.Mirrors
import Broadphase.Proofs.Session.Simulation

/-!
# What listeners are told

After each round that does not fail, every listener is called three times, in
three steps: for the pairs that have ended, then for those that are ongoing, then
for those that have started, and in each step in the order of joining. Nobody is
called at any other time (`TellsExactly`).

A listener that has been there from the start can therefore mirror the contacts
(`Mirrored`): what it is told of a round is what has changed (`Announces`), so it
is never surprised, whoever joins later and whichever rounds fail, and of each
pair it is told that it starts, goes on and ends in turn (`Lifecycle`).

* `Tracker.take_cases`, `take_cases`: all that one turn can come to;
* `Mirrored.after`, `Mirrored.run`: one turn and many;
* `told_run`: these properties, after any run.
-/

namespace Broadphase

variable {ι S : Type} [Handle ι] [Scalar S]

/-! ## Calls -/

/-- One call to each of `n` listeners, in the order of joining. -/
def Delivery.toEach (n : Nat) (notice : Notice) (pairs : List (Pair ι)) : List (Delivery ι) :=
  (List.range n).map (⟨·, notice, pairs⟩)

/-- All calls to `n` listeners after a round. -/
def Changes.calls (c : Changes ι) (n : Nat) : List (Delivery ι) :=
  Delivery.toEach n .ended c.ended ++
    (Delivery.toEach n .ongoing c.ongoing ++ Delivery.toEach n .started c.started)

/-- The listener that is called wants to hear of that. -/
def Delivery.heard (listeners : List Listener) (d : Delivery ι) : Bool :=
  listeners[d.listener]?.any (·.hears d.notice)

namespace Listener

variable {listeners : List Listener} {c : Changes ι} {i : Nat} {notice : Notice}
  {pairs : List (Pair ι)}

/-- The calls of one step, without those to listeners that do not want to hear of it. -/
theorem map_filter_zipIdx (listeners : List Listener) (notice : Notice) (pairs : List (Pair ι)) :
    ((listeners.zipIdx.filter fun (l, _) => l.hears notice).map fun (_, i) =>
      (⟨i, notice, pairs⟩ : Delivery ι)) =
    (Delivery.toEach listeners.length notice pairs).filter (Delivery.heard listeners) := by
  have hrange : List.range listeners.length = listeners.zipIdx.map (·.2) := by
    rw [List.zipIdx_map_snd, List.range_eq_range']
  rw [Delivery.toEach, hrange, List.map_map, List.filter_map]
  refine congrArg _ (List.filter_congr fun (l, i) hl => ?_)
  -- A listener is at its place in the list.
  simp [Delivery.heard, List.mem_zipIdx_iff_getElem?.1 hl]

/-- The calls after a round are all calls, without those that a listener does not want to hear. -/
theorem deliveries_eq (listeners : List Listener) (c : Changes ι) :
    deliveries listeners c = (c.calls listeners.length).filter (Delivery.heard listeners) := by
  rw [deliveries, Notice.steps, Changes.calls, List.filter_append, List.filter_append]
  simp only [List.flatMap_cons, List.flatMap_nil, List.append_nil, map_filter_zipIdx, Changes.of]

theorem newsFor_append {told told' : List (Delivery ι)} :
    newsFor i (told ++ told') = newsFor i told ++ newsFor i told' := by
  rw [newsFor, List.filter_append, List.flatMap_append, newsFor, newsFor]

/-- In one step, each listener is told of the pairs once. -/
theorem newsFor_toEach {n : Nat} (hi : i < n) :
    newsFor i (Delivery.toEach n notice pairs) = pairs.map (notice, ·) := by
  have hone : (List.range n).filter (· = i) = [i] := by
    rw [List.filter_eq, List.count_eq_one_of_mem List.nodup_range (List.mem_range.2 hi)]
    rfl
  rw [newsFor, Delivery.toEach, List.filter_map]
  change (((List.range n).filter (· = i)).map _).flatMap _ = _
  rw [hone]
  exact List.append_nil _

/-- A listener that hears everything is told all that has changed. -/
theorem newsFor_deliveries (h : listeners[i]? = some .all) :
    newsFor i (deliveries listeners c) = c.news := by
  have hi : i < listeners.length := (List.getElem?_eq_some_iff.1 h).1
  have hheard (told : List (Delivery ι)) :
      newsFor i (told.filter (Delivery.heard listeners)) = newsFor i told := by
    rw [newsFor, List.filter_filter, newsFor]
    refine congrArg _ (List.filter_congr fun d _ => ?_)
    by_cases hd : d.listener = i
    · simp [Delivery.heard, hd, h, Listener.hears]
    · simp [hd]
  rw [deliveries_eq, hheard, Changes.calls, newsFor_append, newsFor_append, newsFor_toEach hi,
    newsFor_toEach hi, newsFor_toEach hi, Changes.news]

end Listener

/-! ## Rounds -/

/-- The listener that joins in a turn. -/
def Turn.listener? : Turn ι S → Option Listener
  | .listen listener => some listener
  | .tick _ | .tickParallel _ _ => none

namespace Tracker

variable {t : Tracker ι S}

/-- A round announces to its listeners what has changed. -/
structure Announces (t t' : Tracker ι S) (report : Report ι) : Prop where
  /-- Nobody joins in a round. -/
  listeners_eq : t'.listeners = t.listeners
  /-- What is told is what the contacts have noted. -/
  changes_eq : t'.contacts.changes = report.changes
  /-- It is delivered to the listeners. -/
  deliveries_eq : report.deliveries = Listener.deliveries t.listeners report.changes
  /-- It is what has changed. -/
  between : report.changes.Between (· ∈ t.contacts) (· ∈ t'.contacts)

/-- A round either announces what has changed, or fails. -/
theorem tickWith_announces (h : t.contacts.Current)
    (test : (Pair ι → Bool) → List (Pair ι) → List (Pair ι)) (updates : List (Update ι S)) :
    (∃ t' report, t.tickWith test updates = .ok (t', report) ∧ t.Announces t' report) ∨
      ∃ e, t.tickWith test updates = .error e := by
  cases ht : t.tickWith test updates with
  | error e => exact .inr ⟨e, rfl⟩
  | ok result =>
    obtain ⟨t', report⟩ := result
    obtain ⟨g, -, heq⟩ := tickWith_eq_ok_iff.1 ht
    obtain ⟨rfl, rfl⟩ := Prod.mk.inj heq
    exact .inl ⟨_, _, rfl, rfl, rfl, rfl, h.between_update _⟩

/-- All that a turn can come to: a listener joins, or there is a round, or it fails. -/
theorem take_cases (h : t.contacts.Current) (turn : Turn ι S) :
    (∃ l, turn.listener? = some l ∧ t.take turn = .ok (t.listen l, none)) ∨
    (turn.listener? = none ∧ ∃ t' round, t.take turn = .ok (t', some round) ∧
      t.Announces t' round.report) ∨
    (turn.listener? = none ∧ ∃ e, t.take turn = .error e) := by
  cases turn with
  | listen l => exact .inl ⟨l, rfl, rfl⟩
  | tick updates =>
    rcases tickWith_announces h List.filter updates with ⟨t', report, ht, hannounces⟩ | ⟨e, ht⟩
    · exact .inr (.inl ⟨rfl, t', _, map_eq_ok_iff.2 ⟨_, ht, rfl⟩, hannounces⟩)
    · exact .inr (.inr ⟨rfl, e, map_eq_error_iff.2 ht⟩)
  | tickParallel schedule updates =>
    rcases tickWith_announces h schedule.run updates with ⟨t', report, ht, hannounces⟩ | ⟨e, ht⟩
    · exact .inr (.inl ⟨rfl, t', _, map_eq_ok_iff.2 ⟨_, ht, rfl⟩, hannounces⟩)
    · exact .inr (.inr ⟨rfl, e, map_eq_error_iff.2 ht⟩)

end Tracker

namespace Session

variable {s : Session ι S} {t : Tracker ι S} {cellSize : S} {phase : NarrowPhase ι S}
  {latest : List (Update ι S)} {turn : Turn ι S} {i : Nat}

/-- All that a turn can come to for a session. -/
theorem take_cases (h : s.tracker.Settled cellSize phase latest) (turn : Turn ι S) :
    (∃ l, turn.listener? = some l ∧ s.answer turn = .ok none ∧
      (s.after turn).tracker = s.tracker.listen l ∧ (s.after turn).told = s.told) ∨
    (turn.listener? = none ∧ ∃ round, s.answer turn = .ok (some round) ∧
      s.tracker.Announces (s.after turn).tracker round.report ∧
      (s.after turn).told = s.told ++ round.report.deliveries) ∨
    (turn.listener? = none ∧ (∃ e, s.answer turn = .error e) ∧
      (s.after turn).tracker = s.tracker ∧ (s.after turn).told = s.told) := by
  rw [answer_eq h, tracker_after h, told_after h, Tracker.after, Tracker.round?]
  rcases s.tracker.take_cases h.current turn with ⟨l, hl, ht⟩ | ⟨hl, t', round, ht, hannounces⟩ |
    ⟨hl, e, ht⟩
  · rw [ht]
    exact .inl ⟨l, hl, rfl, rfl, List.append_nil _⟩
  · rw [ht]
    exact .inr (.inl ⟨hl, round, rfl, hannounces, rfl⟩)
  · rw [ht]
    exact .inr (.inr ⟨hl, ⟨e, rfl⟩, rfl, List.append_nil _⟩)

/-- The listeners are those before the turn, and the one that joins. -/
theorem listeners_after (h : s.tracker.Settled cellSize phase latest) (turn : Turn ι S) :
    (s.after turn).tracker.listeners = s.tracker.listeners ++ turn.listener?.toList := by
  rcases take_cases h turn with ⟨l, hl, -, ht, -⟩ | ⟨hl, round, -, ht, -⟩ | ⟨hl, -, ht, -⟩
  · rw [ht, hl]
    rfl
  · rw [ht.listeners_eq, hl]
    exact (List.append_nil _).symm
  · rw [ht, hl]
    exact (List.append_nil _).symm

/-- The listeners are those that have joined, in this order. -/
theorem listeners_run (h : s.tracker.Settled cellSize phase latest) (turns : List (Turn ι S)) :
    (s.run turns).tracker.listeners = s.tracker.listeners ++ turns.filterMap Turn.listener? := by
  induction turns generalizing s latest with
  | nil => exact (List.append_nil _).symm
  | cons turn turns ih =>
    obtain ⟨_, hafter⟩ := settled_after h turn
    have hrun := ih hafter
    rw [listeners_after h, List.append_assoc] at hrun
    rw [List.filterMap_cons]
    cases hl : turn.listener? <;> rw [hl] at hrun <;> exact hrun

/-- If there were none at the start, the listeners are those that have joined. -/
theorem listeners_run_start {settings : Settings S} (h : Tracker.build settings phase = .ok t)
    (turns : List (Turn ι S)) :
    ((start t).run turns).tracker.listeners = turns.filterMap Turn.listener? := by
  rw [listeners_run (Tracker.settled_of_build h)]
  obtain ⟨-, rfl⟩ := Tracker.build_eq_ok_iff.1 h
  exact List.nil_append _

/-- What the listeners are told in a turn, given those that have joined. -/
structure TellsExactly (joined : List Listener) (s : Session ι S) (turn : Turn ι S) : Prop where
  /-- A turn answers without a round exactly if a listener joins. Any other turn that does not fail
      is a round. -/
  answer_eq_none_iff : s.answer turn = .ok none ↔ turn.listener? ≠ none
  /-- After a round, each of them is called for the pairs that have ended, then each for those that
      are ongoing, then each for those that have started. Only calls that a listener does not want
      to hear are left out. -/
  round : ∀ round, s.answer turn = .ok (some round) →
    (s.after turn).told = s.told ++
      (round.report.changes.calls joined.length).filter (Delivery.heard joined)
  /-- These pairs are what has changed. -/
  changes_eq : ∀ round, s.answer turn = .ok (some round) →
    (s.after turn).tracker.contacts.changes = round.report.changes
  /-- If a listener joins, nobody is called. -/
  join : s.answer turn = .ok none → (s.after turn).told = s.told
  /-- If the turn fails, nobody is called. -/
  failure : ∀ e, s.answer turn = .error e → (s.after turn).told = s.told

/-- What listeners are told in one turn, whether it fails or not. -/
theorem tellsExactly (h : s.tracker.Settled cellSize phase latest) (turn : Turn ι S) :
    s.TellsExactly s.tracker.listeners turn := by
  rcases take_cases h turn with ⟨l, hl, ha, -, hd⟩ | ⟨hl, round, ha, ht, hd⟩ | ⟨hl, ⟨e, ha⟩, -, hd⟩
  · constructor <;> simp [hl, ha, hd]
  · rw [ht.deliveries_eq, Listener.deliveries_eq] at hd
    constructor <;> simp [hl, ha, hd, ht.changes_eq]
  · constructor <;> simp [hl, ha, hd]

/-! ## Mirrors -/

/-- A mirror that is kept by one listener is never surprised, and holds the contacts. -/
def Mirrored (i : Nat) (s : Session ι S) : Prop :=
  ∃ m, Mirror.hearAll ∅ (newsFor i s.told) = some m ∧ ∀ p, p ∈ m ↔ p ∈ s.tracker.contacts

/-- One turn, whether it fails or not. -/
theorem Mirrored.after (hm : s.Mirrored i) (h : s.tracker.Settled cellSize phase latest)
    (hi : s.tracker.listeners[i]? = some .all) (turn : Turn ι S) : (s.after turn).Mirrored i := by
  obtain ⟨m, hhear, hmem⟩ := hm
  rcases take_cases h turn with ⟨l, -, -, ht, hd⟩ | ⟨-, round, -, ht, hd⟩ | ⟨-, -, ht, hd⟩
  · rw [Mirrored, hd, ht]
    exact ⟨m, hhear, hmem⟩
  · obtain ⟨m', hhear', hmem'⟩ := ht.between.mirror hmem
    rw [Mirrored, hd, Listener.newsFor_append, ht.deliveries_eq, Listener.newsFor_deliveries hi,
      Mirror.hearAll_append, hhear]
    exact ⟨m', hhear', hmem'⟩
  · rw [Mirrored, hd, ht]
    exact ⟨m, hhear, hmem⟩

/-- Any number of turns, whether they fail or not. -/
theorem Mirrored.run (hm : s.Mirrored i) (h : s.tracker.Settled cellSize phase latest)
    (hi : s.tracker.listeners[i]? = some .all) (turns : List (Turn ι S)) :
    (s.run turns).Mirrored i := by
  induction turns generalizing s latest with
  | nil => exact hm
  | cons turn turns ih =>
    obtain ⟨_, hafter⟩ := settled_after h turn
    refine ih (hm.after h hi turn) hafter ?_
    -- Listeners keep their places.
    rw [listeners_after h]
    rwa [List.getElem?_append_left (List.getElem?_eq_some_iff.1 hi).1]

/-! ## Runs -/

/-- While listeners join, nobody is told anything, and no contacts are made. -/
theorem run_listen (joined : List Listener) : (s.run (joined.map .listen)).told = s.told ∧
    (s.run (joined.map .listen)).tracker.contacts = s.tracker.contacts := by
  induction joined generalizing s with
  | nil => exact ⟨rfl, rfl⟩
  | cons l joined ih => exact ih (s := s.after (.listen l))

theorem mirrored_run_listen {settings : Settings S} (h : Tracker.build settings phase = .ok t)
    (joined : List Listener) : ((start t).run (joined.map .listen)).Mirrored i := by
  obtain ⟨htold, hcontacts⟩ := run_listen (s := start t) joined
  obtain ⟨-, rfl⟩ := Tracker.build_eq_ok_iff.1 h
  rw [Mirrored, htold, hcontacts]
  exact ⟨∅, rfl, fun p => iff_of_false Std.ExtTreeSet.not_mem_empty Std.ExtTreeMap.not_mem_empty⟩

/-- What is told of a pair in a run: it has started, then any number of times that it is ongoing,
    then that it has ended, and so on, up to the contacts that there are. -/
def Lifecycle (i : Nat) (s : Session ι S) (p : Pair ι) : Prop :=
  (p ∉ s.tracker.contacts →
    noticesOf p (newsFor i s.told) ∈ Notice.finished.matches') ∧
  (p ∈ s.tracker.contacts →
    noticesOf p (newsFor i s.told) ∈ (Notice.finished * Notice.begun).matches')

omit [Scalar S] in
/-- A mirror that is never surprised has heard of each pair in turn. -/
theorem Mirrored.lifecycle (hm : s.Mirrored i) (p : Pair ι) : s.Lifecycle i p := by
  obtain ⟨m, hhear, hmem⟩ := hm
  rw [Lifecycle, ← hmem p]
  exact Mirror.lifecycle hhear p

/-- A listener that has joined before the first round can mirror the contacts. -/
theorem mirrored_run {settings : Settings S} (h : Tracker.build settings phase = .ok t)
    {joined : List Listener} (hi : joined[i]? = some .all) (turns : List (Turn ι S)) :
    ((start t).run (joined.map .listen ++ turns)).Mirrored i := by
  obtain ⟨_, hsettled⟩ :=
    settled_run (s := start t) (Tracker.settled_of_build h) (joined.map .listen)
  have hlisteners : ((start t).run (joined.map .listen)).tracker.listeners[i]? = some .all := by
    rw [listeners_run_start h, List.filterMap_map]
    exact (congrArg (·[i]?) (List.filterMap_some (l := joined))).trans hi
  rw [run, List.foldl_append]
  exact (mirrored_run_listen h joined).run hsettled hlisteners turns

/-- After any run, listeners are told of a turn exactly what has changed in it. One that has joined
    before the first round and hears everything can mirror the contacts, and is told of each pair
    that it starts, goes on and ends in turn. -/
theorem told_run {settings : Settings S} (h : Tracker.build settings phase = .ok t) :
    (∀ turns turn,
      ((start t).run turns).TellsExactly (turns.filterMap Turn.listener?) turn) ∧
    ∀ (joined : List Listener) (i : Nat), joined[i]? = some .all → ∀ turns,
      ((start t).run (joined.map .listen ++ turns)).Mirrored i ∧
        ∀ p, ((start t).run (joined.map .listen ++ turns)).Lifecycle i p := by
  refine ⟨fun turns turn => ?_, fun joined i hi turns => ?_⟩
  · obtain ⟨_, hrun⟩ := settled_run (s := start t) (Tracker.settled_of_build h) turns
    rw [← listeners_run_start h]
    exact tellsExactly hrun turn
  · have hm := mirrored_run h hi turns
    exact ⟨hm, hm.lifecycle⟩

/-- Two disks come to overlap, a round fails, they still overlap, one of them is missing for a
    round, and is back in the next one. Other listeners join at the start and in between. -/
theorem told_run_back :
    let t : Tracker UInt32 ℚ := ⟨.empty 10, .new, .radiusOverlap, .new, [], 0⟩
    let disk (x r : ℚ) : Shape ℚ := { position := ⟨x, 0⟩, extent := .disk r }
    let both : List (Update UInt32 ℚ) := [(1, disk 0 3), (2, disk 4 2)]
    let joined : List Listener := [.only .ended, .all]
    let turns : List (Turn UInt32 ℚ) := [.tick both, .tick [(1, disk 0 (-1))], .listen .all,
      .tickParallel (.even 1) both, .tick [(2, disk 4 2)], .tick both]
    let s := (start t).run (joined.map .listen ++ turns)
    Tracker.build { cellSize := (10 : ℚ) } .radiusOverlap = .ok t ∧ joined[1]? = some .all ∧
      (∀ turn, s.TellsExactly [.only .ended, .all, .all] turn) ∧ s.Mirrored 1 ∧
      ∀ p, s.Lifecycle 1 p := by
  intro t disk both joined turns s
  have h : Tracker.build { cellSize := (10 : ℚ) } .radiusOverlap = .ok t :=
    Tracker.build_eq_ok_iff.2 ⟨by decide +kernel, rfl⟩
  have hjoined : (joined.map Turn.listen ++ turns).filterMap Turn.listener? =
      [.only .ended, .all, .all] := rfl
  exact ⟨h, rfl, hjoined ▸ (told_run h).1 _, (told_run h).2 joined 1 rfl turns⟩

end Session

end Broadphase
