import Broadphase.Proofs.Tracker.Rounds
import Broadphase.Session

/-!
# Sessions follow their trackers

A session that takes a turn answers what its tracker would answer, and changes
its tracker into what that turn leads to. So whatever the lists of its workspace
hold at the start of a round, they make no difference to it, and neither does it
matter that work which fails is not undone: once all shapes of a round can be
placed, no step of it fails.

* `run_refresh`, `run_refresh_of_unplaceable`: bringing the grid up to date, step by
  step;
* `run_tick`, `run_tickParallel`: rounds that do not fail;
* `run_take`: one turn, whether it fails or not.
-/

namespace Broadphase.Session

variable {ι S : Type} [Handle ι] [Scalar S] {s s' : Session ι S} {g : Grid ι S}
  {updates : List (Update ι S)} {t' : Tracker ι S} {report : Report ι}

/-! ## Bringing the grid up to date -/

/-- An action that the grid can carry out changes the grid and nothing else. -/
theorem run_act {action : Action ι S}
    (h : (·.2) <$> s.tracker.grid.perform action = .ok g) :
    (act action).run s = .ok () { s with tracker := { s.tracker with grid := g } } := by
  obtain ⟨⟨reply, g'⟩, hg', rfl⟩ := map_eq_ok_iff.1 h
  simp only [act, EStateM.run_bind, EStateM.run_get, hg']
  rfl

/-- The objects are given their shapes one by one, and their handles are noted down. -/
theorem run_forM_place (h : s.tracker.grid.placeAll updates = .ok g) :
    (updates.forM place).run s = .ok () { s with
      tracker := { s.tracker with grid := g }
      workspace := { s.workspace with
        live := s.workspace.live.insertMany (updates.map (·.1)) } } := by
  rw [List.forM_eq_forM]
  induction updates generalizing s with
  | nil =>
    obtain rfl := Except.ok.inj h
    rw [List.map_nil, Std.ExtTreeSet.insertMany_nil]
    rfl
  | cons u updates ih =>
    rw [Grid.placeAll, List.foldlM_cons] at h
    obtain ⟨g₁, hg₁, h⟩ := bind_eq_ok_iff.1 h
    -- The handle is noted down before the grid changes.
    let s₁ : Session ι S := { s with
      workspace := { s.workspace with live := s.workspace.live.insert u.1 } }
    let s₂ : Session ι S := { s₁ with tracker := { s.tracker with grid := g₁ } }
    have hplace : (place u).run s = .ok () s₂ := run_act (s := s₁) hg₁
    rw [List.forM_cons, run_bind_ok hplace, ih (s := s₂) h, List.map_cons,
      Std.ExtTreeSet.insertMany_cons]

/-- Objects are removed one by one, and nothing else changes. -/
theorem run_forM_remove {ids : List ι} (h : s.tracker.grid.removeAll ids = .ok g) :
    (ids.forM fun id => act (.remove id)).run s =
      .ok () { s with tracker := { s.tracker with grid := g } } := by
  rw [List.forM_eq_forM]
  induction ids generalizing s with
  | nil =>
    obtain rfl := Except.ok.inj h
    rfl
  | cons id ids ih =>
    rw [Grid.removeAll, List.foldlM_cons] at h
    obtain ⟨g₁, hg₁, h⟩ := bind_eq_ok_iff.1 h
    obtain ⟨⟨shape, g₁⟩, hremove, rfl⟩ := map_eq_ok_iff.1 hg₁
    let s₁ : Session ι S := { s with tracker := { s.tracker with grid := g₁ } }
    have hact : (act (.remove id)).run s = .ok () s₁ :=
      run_act (by rw [Grid.perform, hremove]; rfl)
    rw [List.forM_cons, run_bind_ok hact, ih (s := s₁) h]

/-- What is missing from the updates is removed. -/
theorem run_dismiss (hlive : s.workspace.live = .ofList (updates.map (·.1)))
    (h : s.tracker.grid.removeAll (s.tracker.grid.departed updates) = .ok g) :
    ∃ w, (dismiss (S := S)).run s = .ok () ⟨{ s.tracker with grid := g }, w, s.told⟩ := by
  let w : Workspace ι S := { s.workspace with departed := s.tracker.grid.departed updates }
  have hdeparted : (dismiss (S := S)).run s =
      (w.departed.forM fun id => act (.remove id)).run { s with workspace := w } := by
    -- The list is emptied before it is filled, so what was in it does not matter.
    simp only [w, Grid.departed, ← hlive]
    rfl
  exact ⟨w, hdeparted.trans (run_forM_remove (s := { s with workspace := w }) h)⟩

/-- The grid is brought up to date, if that goes well for the grid itself. -/
theorem run_refresh (h : s.tracker.grid.refresh updates = .ok g) :
    ∃ w, (refresh updates).run s = .ok () ⟨{ s.tracker with grid := g }, w, s.told⟩ := by
  have hnone : s.tracker.grid.unplaceable? updates = none :=
    Grid.unplaceable?_eq_none_iff.2 (Grid.refresh_eq_ok h)
  rw [Grid.refresh, hnone] at h
  obtain ⟨placed, hplaced, hremoved⟩ := bind_eq_ok_iff.1 h
  let s₁ : Session ι S := { s with workspace := { s.workspace with pending := updates, live := ∅ } }
  have hrefresh : (refresh updates).run s = (updates.forM place >>= fun _ => dismiss).run s₁ := by
    simp only [refresh, EStateM.run_bind, arrange, EStateM.run_modify, EStateM.run_get,
      List.nil_append, hnone]
    rfl
  rw [hrefresh, run_bind_ok (run_forM_place (s := s₁) hplaced)]
  exact run_dismiss Std.ExtTreeSet.ofList_eq_insertMany_empty.symm hremoved

/-- A shape that cannot be placed is found before anything but a list has changed. -/
theorem run_refresh_of_unplaceable {u : Update ι S}
    (h : s.tracker.grid.unplaceable? updates = some u) :
    ∃ w, (refresh updates).run s = .error (.unplaceableShape u.1) { s with workspace := w } := by
  refine ⟨{ s.workspace with pending := updates }, ?_⟩
  simp only [refresh, EStateM.run_bind, arrange, EStateM.run_modify, EStateM.run_get,
    List.nil_append, h]
  rfl

/-! ## Rounds -/

omit [Scalar S] in
/-- The candidates are tested one by one, and those that pass are kept. -/
theorem run_forM_test {candidates : List (Pair ι)} :
    (candidates.forM (test (S := S))).run s = .ok () { s with
      workspace := { s.workspace with
        confirmed := s.workspace.confirmed ++
          candidates.filter (Tracker.confirms s.tracker.phase s.tracker.grid) } } := by
  rw [List.forM_eq_forM]
  induction candidates generalizing s with
  | nil =>
    rw [List.filter_nil, List.append_nil]
    rfl
  | cons p candidates ih =>
    rw [List.forM_cons]
    cases hp : Tracker.confirms s.tracker.phase s.tracker.grid p with
    | true =>
      have htest : (test p).run s = .ok () { s with
          workspace := { s.workspace with confirmed := s.workspace.confirmed ++ [p] } } := by
        simp only [test, EStateM.run_bind, EStateM.run_get, hp]
        rfl
      rw [run_bind_ok htest, ih, List.append_assoc, List.filter_cons_of_pos hp]
      rfl
    | false =>
      have htest : (test p).run s = .ok () s := by
        simp only [test, EStateM.run_bind, EStateM.run_get, hp]
        rfl
      rw [run_bind_ok htest, ih, List.filter_cons_of_neg (by rw [hp]; exact Bool.false_ne_true)]

/-- A round in which the candidates are tested one by one, if it does not fail. Whatever is in the
    lists at its beginning, the tracker becomes the one that the round leads to, and its deliveries
    are told. -/
theorem run_tick (h : s.tracker.tick updates = .ok (t', report)) :
    ∃ w, (tick updates).run s = .ok report ⟨t', w, s.told ++ report.deliveries⟩ := by
  obtain ⟨g, hg, heq⟩ := Tracker.tickWith_eq_ok_iff.1 h
  obtain ⟨rfl, rfl⟩ := Prod.mk.inj heq
  obtain ⟨w, hw⟩ := run_refresh hg
  -- When the tests begin, no pair of an earlier round is left among the confirmed ones.
  let candidates := (s.tracker.scanner.scan g).finish.1
  let scanner := (s.tracker.scanner.scan g).finish.2.scanner
  let s₁ : Session ι S := ⟨{ s.tracker with grid := g, scanner }, { w with confirmed := [] }, s.told⟩
  have htick : (tick updates).run s =
      (candidates.forM test >>= fun _ => conclude candidates).run s₁ := by
    rw [tick, run_bind_ok hw]
    rfl
  rw [htick, run_bind_ok run_forM_test]
  exact ⟨_, rfl⟩

/-- A round in which the candidates are spread over workers, if it does not fail. -/
theorem run_tickParallel {schedule : Schedule ι}
    (h : s.tracker.tickParallel schedule updates = .ok (t', report)) :
    ∃ w, (tickParallel schedule updates).run s =
      .ok report ⟨t', w, s.told ++ report.deliveries⟩ := by
  obtain ⟨g, hg, heq⟩ := Tracker.tickWith_eq_ok_iff.1 h
  obtain ⟨rfl, rfl⟩ := Prod.mk.inj heq
  obtain ⟨w, hw⟩ := run_refresh hg
  rw [tickParallel, run_bind_ok hw]
  exact ⟨_, rfl⟩

/-! ## Turns -/

/-- What a turn comes to for a session, given what it comes to for the tracker and what it leaves in
    the lists: a round is told to the listeners, and a failure changes nothing but the lists. -/
def outcome (s : Session ι S) (w : Workspace ι S) :
    Except (GridError ι) (Tracker ι S × Option (Round ι S)) →
      EStateM.Result (GridError ι) (Session ι S) (Option (Round ι S))
  | .ok (t, round) => .ok round ⟨t, w, s.told ++ round.elim [] (·.report.deliveries)⟩
  | .error e => .error e { s with workspace := w }

variable {cellSize : S} {phase : NarrowPhase ι S} {latest : List (Update ι S)}

/-- A round, one that fails included, in terms of the round that the tracker makes. -/
theorem run_round {test : (Pair ι → Bool) → List (Pair ι) → List (Pair ι)}
    {work : Work ι S (Report ι)} (h : s.tracker.Settled cellSize phase latest)
    (hok : ∀ {t' report}, s.tracker.tickWith test updates = .ok (t', report) →
      ∃ w, work.run s = .ok report ⟨t', w, s.told ++ report.deliveries⟩)
    (hfail : ∀ {u}, s.tracker.grid.unplaceable? updates = some u →
      ∃ w, work.run s = .error (.unplaceableShape u.1) { s with workspace := w }) :
    ∃ w, (work >>= fun report => pure (some ⟨updates, report⟩)).run s =
      s.outcome w ((fun (t, report) => (t, some ⟨updates, report⟩)) <$>
        s.tracker.tickWith test updates) := by
  rcases h.tickWith_cases test updates with ⟨u, hu, ht⟩ | ⟨-, t', report, ht⟩
  · obtain ⟨w, hw⟩ := hfail hu
    refine ⟨w, (run_bind_error hw).trans ?_⟩
    rw [ht]
    rfl
  · obtain ⟨w, hw⟩ := hok ht
    refine ⟨w, (run_bind_ok hw).trans ?_⟩
    rw [ht]
    rfl

/-- A turn, one that fails included, in terms of the turn that the tracker takes. -/
theorem run_take (h : s.tracker.Settled cellSize phase latest) (turn : Turn ι S) :
    ∃ w, (take turn).run s = s.outcome w (s.tracker.take turn) := by
  cases turn with
  | listen listener =>
    refine ⟨s.workspace, ?_⟩
    rw [Tracker.take, pure_eq_ok, outcome, Option.elim_none, List.append_nil]
    rfl
  | tick updates =>
    refine run_round h run_tick fun hu => ?_
    obtain ⟨w, hw⟩ := run_refresh_of_unplaceable hu
    exact ⟨w, run_bind_error hw⟩
  | tickParallel schedule updates =>
    refine run_round h run_tickParallel fun hu => ?_
    obtain ⟨w, hw⟩ := run_refresh_of_unplaceable hu
    exact ⟨w, run_bind_error hw⟩

/-- A session answers what its tracker would. -/
theorem answer_eq (h : s.tracker.Settled cellSize phase latest) (turn : Turn ι S) :
    s.answer turn = (·.2) <$> s.tracker.take turn := by
  obtain ⟨w, hw⟩ := run_take h turn
  rw [answer, hw]
  cases s.tracker.take turn <;> rfl

/-- A turn leads a session where it leads its tracker. -/
theorem tracker_after (h : s.tracker.Settled cellSize phase latest) (turn : Turn ι S) :
    (s.after turn).tracker = s.tracker.after turn := by
  obtain ⟨w, hw⟩ := run_take h turn
  rw [after, hw, Tracker.after]
  cases s.tracker.take turn <;> rfl

/-- Listeners are told what the tracker delivers in the round, if the turn is one. -/
theorem told_after (h : s.tracker.Settled cellSize phase latest) (turn : Turn ι S) :
    (s.after turn).told =
      s.told ++ (s.tracker.round? turn).elim [] (·.report.deliveries) := by
  obtain ⟨w, hw⟩ := run_take h turn
  rw [after, hw, Tracker.round?]
  cases s.tracker.take turn with
  | ok => rfl
  | error => exact (List.append_nil _).symm

/-- A session keeps its tracker settled, whatever is asked of it. -/
theorem settled_after (h : s.tracker.Settled cellSize phase latest) (turn : Turn ι S) :
    ∃ latest, (s.after turn).tracker.Settled cellSize phase latest := by
  rw [tracker_after h]
  exact ⟨_, h.after turn⟩

/-- Any number of turns keep the tracker settled. -/
theorem settled_run (h : s.tracker.Settled cellSize phase latest) (turns : List (Turn ι S)) :
    ∃ latest, (s.run turns).tracker.Settled cellSize phase latest := by
  rw [run]
  induction turns generalizing s latest with
  | nil => exact ⟨latest, h⟩
  | cons turn turns ih =>
    obtain ⟨_, hafter⟩ := settled_after h turn
    exact ih hafter

end Broadphase.Session
