import Broadphase.Proofs.Session.Simulation

/-!
# Failures of a session

A round fails exactly if it is given a shape that cannot be placed, and the first
such shape is named. Nothing but the lists of the workspace has changed then
(`FailsCleanly`), and no later turn can tell what is in these lists: sessions that
agree on everything else answer alike, and agree again afterwards
(`Agrees.answer_eq`, `Agrees.after`).

So the turns of a run that fail can as well be left out (`failures_invisible`).
-/

namespace Broadphase

variable {ι S : Type} [Handle ι] [Scalar S] {cellSize : S} {phase : NarrowPhase ι S}
  {latest : List (Update ι S)} {turn : Turn ι S} {e : GridError ι}

/-! ## Which turns fail -/

namespace Grid

variable {g : Grid ι S} {updates : List (Update ι S)} {u : Update ι S}

/-- The update to blame is the first whose shape cannot be placed. -/
theorem unplaceable?_eq_some_iff : g.unplaceable? updates = some u ↔
    g.regionFor? u.2 = none ∧
      ∃ before after, updates = before ++ u :: after ∧
        ∀ v ∈ before, g.regionFor? v.2 ≠ none := by
  simp [unplaceable?, List.find?_eq_some_iff_append, Option.isSome_iff_ne_none]

theorem exists_unplaceable?_iff : (∃ u, g.unplaceable? updates = some u) ↔
    ∃ u ∈ updates, g.regionFor? u.2 = none := by
  rw [← Option.isSome_iff_exists]
  simp [unplaceable?, List.find?_isSome]

end Grid

namespace Tracker

variable {t : Tracker ι S}

/-- The only thing that can go wrong in a round is a shape that cannot be placed. -/
theorem Settled.tickWith_eq_error_iff {updates : List (Update ι S)}
    {test : (Pair ι → Bool) → List (Pair ι) → List (Pair ι)}
    (h : t.Settled cellSize phase latest) : t.tickWith test updates = .error e ↔
      ∃ u, t.grid.unplaceable? updates = some u ∧ e = .unplaceableShape u.1 := by
  rcases h.tickWith_cases test updates with ⟨u, hu, ht⟩ | ⟨hu, t', report, ht⟩
  · rw [ht, hu]
    constructor
    · intro he
      exact ⟨u, rfl, (Except.error.inj he).symm⟩
    · rintro ⟨v, hv, rfl⟩
      rw [Option.some.inj hv]
  · rw [ht, hu]
    exact iff_of_false nofun fun ⟨_, hsome, _⟩ => absurd hsome nofun

/-- The only thing that can go wrong in a turn is a shape that cannot be placed. -/
theorem Settled.take_eq_error_iff (h : t.Settled cellSize phase latest) :
    t.take turn = .error e ↔
      ∃ u, t.grid.unplaceable? turn.updates = some u ∧ e = .unplaceableShape u.1 := by
  cases turn with
  | listen => exact iff_of_false nofun fun ⟨_, hsome, _⟩ => absurd hsome nofun
  | tick updates => exact map_eq_error_iff.trans h.tickWith_eq_error_iff
  | tickParallel schedule updates => exact map_eq_error_iff.trans h.tickWith_eq_error_iff

end Tracker

namespace Session

variable {s s' s'' : Session ι S} {t : Tracker ι S}

/-! ## Sessions that agree -/

/-- Two sessions agree if they are the same but for the lists of their workspaces. -/
structure Agrees (s s' : Session ι S) : Prop where
  /-- The trackers are the same. -/
  tracker_eq : s.tracker = s'.tracker
  /-- The listeners have been told the same. -/
  told_eq : s.told = s'.told

omit [Scalar S] in
theorem Agrees.refl (s : Session ι S) : s.Agrees s := ⟨rfl, rfl⟩

omit [Scalar S] in
theorem Agrees.trans (h : s.Agrees s') (h' : s'.Agrees s'') : s.Agrees s'' :=
  ⟨h.tracker_eq.trans h'.tracker_eq, h.told_eq.trans h'.told_eq⟩

/-- Sessions that agree answer alike. -/
theorem Agrees.answer_eq (h : s.Agrees s') (hs : s.tracker.Settled cellSize phase latest)
    (turn : Turn ι S) : s.answer turn = s'.answer turn := by
  rw [Session.answer_eq hs, Session.answer_eq (h.tracker_eq ▸ hs), h.tracker_eq]

/-- They agree again after the turn, whether it fails or not. -/
theorem Agrees.after (h : s.Agrees s') (hs : s.tracker.Settled cellSize phase latest)
    (turn : Turn ι S) : (s.after turn).Agrees (s'.after turn) := by
  have hs' := h.tracker_eq ▸ hs
  constructor
  · rw [tracker_after hs, tracker_after hs', h.tracker_eq]
  · rw [told_after hs, told_after hs', h.tracker_eq, h.told_eq]

/-- Sessions that agree cannot be told apart by any turns. -/
theorem Agrees.run (h : s.Agrees s') (hs : s.tracker.Settled cellSize phase latest)
    (turns : List (Turn ι S)) :
    s.answers turns = s'.answers turns ∧ (s.run turns).Agrees (s'.run turns) := by
  induction turns generalizing s s' latest with
  | nil => exact ⟨rfl, h⟩
  | cons turn turns ih =>
    obtain ⟨_, hafter⟩ := settled_after hs turn
    obtain ⟨hanswers, hrun⟩ := ih (h.after hs turn) hafter
    rw [answers, answers, h.answer_eq hs, hanswers]
    exact ⟨rfl, hrun⟩

/-! ## Turns that fail -/

/-- A turn fails only for a shape that cannot be placed, and then it changes nothing. -/
structure FailsCleanly (s : Session ι S) (turn : Turn ι S) : Prop where
  /-- It fails if there is such a shape in its list, even if a later one overrides it. -/
  fails_iff : (∃ e, s.answer turn = .error e) ↔
    ∃ u ∈ turn.updates, s.tracker.grid.regionFor? u.2 = none
  /-- The error names the first of them. -/
  names_first : ∀ e, s.answer turn = .error e → ∃ before u after,
    turn.updates = before ++ u :: after ∧
      (∀ v ∈ before, s.tracker.grid.regionFor? v.2 ≠ none) ∧
      s.tracker.grid.regionFor? u.2 = none ∧ e = .unplaceableShape u.1
  /-- Nothing has changed, and no listener has been told anything. -/
  unchanged : ∀ e, s.answer turn = .error e → (s.after turn).Agrees s

theorem answer_eq_error_iff (h : s.tracker.Settled cellSize phase latest) :
    s.answer turn = .error e ↔
      ∃ u, s.tracker.grid.unplaceable? turn.updates = some u ∧ e = .unplaceableShape u.1 := by
  rw [answer_eq h, map_eq_error_iff, h.take_eq_error_iff]

/-- A turn that fails has changed nothing but the lists of the workspace. -/
theorem agrees_after_of_error (h : s.tracker.Settled cellSize phase latest)
    (he : s.answer turn = .error e) : (s.after turn).Agrees s := by
  rw [answer_eq h, map_eq_error_iff] at he
  constructor
  · rw [tracker_after h, Tracker.after, he]
  · rw [told_after h, Tracker.round?, he]
    exact List.append_nil _

/-- One turn: when it fails, what it names, and what it leaves. -/
theorem failsCleanly (h : s.tracker.Settled cellSize phase latest) (turn : Turn ι S) :
    s.FailsCleanly turn where
  fails_iff := by
    rw [← Grid.exists_unplaceable?_iff]
    constructor
    · rintro ⟨e, he⟩
      obtain ⟨u, hu, -⟩ := (answer_eq_error_iff h).1 he
      exact ⟨u, hu⟩
    · rintro ⟨u, hu⟩
      exact ⟨_, (answer_eq_error_iff h).2 ⟨u, hu, rfl⟩⟩
  names_first e he := by
    obtain ⟨u, hu, rfl⟩ := (answer_eq_error_iff h).1 he
    obtain ⟨hnone, before, after, heq, hbefore⟩ := Grid.unplaceable?_eq_some_iff.1 hu
    exact ⟨before, u, after, heq, hbefore, hnone, rfl⟩
  unchanged _ he := agrees_after_of_error h he

/-! ## Runs -/

/-- A run without the turns that fail, from a session that agrees. -/
theorem Agrees.run_successful (h : s.Agrees s') (hs : s.tracker.Settled cellSize phase latest)
    (turns : List (Turn ι S)) :
    s'.answers (s.successful turns) = (s.answers turns).filter (·.isOk) ∧
      (s.run turns).Agrees (s'.run (s.successful turns)) := by
  induction turns generalizing s s' latest with
  | nil => exact ⟨rfl, h⟩
  | cons turn turns ih =>
    obtain ⟨_, hafter⟩ := settled_after hs turn
    rw [successful, answers]
    cases hturn : s.answer turn with
    | error e =>
      -- The turn is left out, and the session after it still agrees.
      exact ih ((agrees_after_of_error hs hturn).trans h) hafter
    | ok round =>
      obtain ⟨hanswers, hrun⟩ := ih (h.after hs turn) hafter
      refine ⟨?_, hrun⟩
      change s'.answer turn :: (s'.after turn).answers ((s.after turn).successful turns) =
        Except.ok round :: ((s.after turn).answers turns).filter (·.isOk)
      rw [← h.answer_eq hs, hturn, hanswers]

/-- Turns that fail are invisible. After any run, a turn that fails is clean. The run without the
    turns that fail has the answers of the others, and leads to a session that agrees, so that no
    later turns can tell the two runs apart. -/
theorem failures_invisible {settings : Settings S} (h : Tracker.build settings phase = .ok t)
    (turns : List (Turn ι S)) :
    (∀ turn, ((start t).run turns).FailsCleanly turn) ∧
      (start t).answers ((start t).successful turns) =
        ((start t).answers turns).filter (·.isOk) ∧
      ((start t).run turns).Agrees ((start t).run ((start t).successful turns)) ∧
      ∀ later,
        ((start t).run turns).answers later =
          ((start t).run ((start t).successful turns)).answers later ∧
        (((start t).run turns).run later).Agrees
          (((start t).run ((start t).successful turns)).run later) := by
  have hstart : (start t).tracker.Settled settings.cellSize phase [] := Tracker.settled_of_build h
  obtain ⟨latest, hrun⟩ := settled_run hstart turns
  obtain ⟨hanswers, hagrees⟩ := (Agrees.refl (start t)).run_successful hstart turns
  exact ⟨failsCleanly hrun, hanswers, hagrees, hagrees.run hrun⟩

/-- A round that is given a negative radius fails, even if another shape for that handle follows. It
    is one of three rounds here. In the first, a handle is given twice. -/
theorem failures_invisible_overridden :
    let t : Tracker UInt32 ℚ := ⟨.empty 10, .new, .radiusOverlap, .new, [], 0⟩
    let disk (x r : ℚ) : Shape ℚ := { position := ⟨x, 0⟩, extent := .disk r }
    let bad : Turn UInt32 ℚ := .tick [(3, disk 5 1), (1, disk 0 (-1)), (1, disk 0 3)]
    let turns : List (Turn UInt32 ℚ) := [.listen .all,
      .tick [(1, disk 0 3), (2, disk 30 2), (2, disk 4 2)],
      bad,
      .tickParallel (.even 1) [(2, disk 4 2), (3, disk 5 1)]]
    Tracker.build { cellSize := (10 : ℚ) } .radiusOverlap = .ok t ∧
      (∃ e, ((start t).run turns).answer bad = .error e) ∧
      (∀ turn, ((start t).run turns).FailsCleanly turn) ∧
      (start t).answers ((start t).successful turns) =
        ((start t).answers turns).filter (·.isOk) ∧
      ((start t).run turns).Agrees ((start t).run ((start t).successful turns)) ∧
      ∀ later,
        ((start t).run turns).answers later =
          ((start t).run ((start t).successful turns)).answers later ∧
        (((start t).run turns).run later).Agrees
          (((start t).run ((start t).successful turns)).run later) := by
  have h : Tracker.build { cellSize := (10 : ℚ) } .radiusOverlap =
      .ok (⟨.empty 10, .new, .radiusOverlap, .new, [], 0⟩ : Tracker UInt32 ℚ) :=
    Tracker.build_eq_ok_iff.2 ⟨by decide +kernel, rfl⟩
  have hbad (g : Grid UInt32 ℚ) :
      g.regionFor? { position := ⟨0, 0⟩, extent := .disk (-1) } = none := by
    rw [Grid.regionFor?, Shape.region?, if_neg (by decide +kernel)]
  refine ⟨h, ?_, failures_invisible h _⟩
  exact ((failures_invisible h _).1 _).fails_iff.2
    ⟨_, List.mem_cons_of_mem _ List.mem_cons_self, hbad _⟩

end Session

end Broadphase
