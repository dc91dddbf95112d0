import Broadphase.Proofs.Contacts.Runs
import Broadphase.Proofs.Grid.Alike
import Broadphase.Proofs.Tracker.Rounds
import Broadphase.Tracker.Traversal

/-!
# Rounds in any order

The orders in which rounds go through objects, cells and records make no
difference to what is told of them, and to what can be asked of the tracker
(`traversals_run`). They do leave traces: the candidates of a round are tested in
another order, and the handles in a cell come to be listed in another order, which
the scans of later rounds follow. So what is kept from round to round is not that
the trackers are equal, but that they are alike and hold the same shapes.

* `tickBy_ascending`: the round of `tickWith` is one of these rounds;
* `Grid.Holds.refreshBy`: what has departed can be removed in any order;
* `Grid.Holds.candidates_perm`: grids that hold the same shapes have the same
  candidates;
* `Settled.tickBy_alike`: one round of two trackers that are alike;
* `Settled.takeBy_alike`: one turn.
-/

namespace Broadphase

variable {ι S : Type} [Handle ι] [Scalar S]

/-! ## What is alike -/

/-- Two rounds are told alike: only the order differs in which candidates were tested. -/
structure Report.Alike (report report' : Report ι) : Prop where
  /-- The same has changed. -/
  changes_eq : report.changes = report'.changes
  /-- The listeners are told the same. -/
  deliveries_eq : report.deliveries = report'.deliveries
  /-- The same candidates were tested. -/
  tested_perm : report.tested.Perm report'.tested
  /-- The figures are the same. -/
  summary_eq : report.summary = report'.summary

/-- Two answers to the same turn are alike. -/
inductive AlikeAnswer : Except (GridError ι) (Option (Round ι S)) →
    Except (GridError ι) (Option (Round ι S)) → Prop
  /-- The turn fails, for the same reason. -/
  | failed (e : GridError ι) : AlikeAnswer (.error e) (.error e)
  /-- A listener joins. -/
  | joined : AlikeAnswer (.ok none) (.ok none)
  /-- The turn is a round. -/
  | told (updates : List (Update ι S)) {report report' : Report ι} (h : report.Alike report') :
    AlikeAnswer (.ok (some ⟨updates, report⟩)) (.ok (some ⟨updates, report'⟩))

/-- Two trackers that no question can tell apart. -/
structure Tracker.Alike (t t' : Tracker ι S) : Prop where
  /-- Their grids are alike. -/
  grid : t.grid.Alike t'.grid
  /-- The cells of these have the same size. -/
  cellSize_eq : t.grid.cellSize = t'.grid.cellSize
  /-- They put candidates to the same test. -/
  phase_eq : t.phase = t'.phase
  /-- The same pairs interact, and the same has changed. -/
  contacts_eq : t.contacts = t'.contacts
  /-- The same listeners have joined. -/
  listeners_eq : t.listeners = t'.listeners
  /-- There have been as many rounds. -/
  rounds_eq : t.rounds = t'.rounds

variable {cellSize : S} {phase : NarrowPhase ι S} {updates latest : List (Update ι S)}

/-! ## Grids -/

namespace Grid

variable {g g' : Grid ι S} {shapes : ι → Option (Shape S)}

/-- A grid can be refreshed in any order. -/
theorem Holds.refreshBy (h : g.Holds cellSize shapes) (hu : Placeable cellSize updates)
    (traversal : Traversal ι S) :
    ∃ g', g.refreshBy traversal updates = .ok g' ∧ g'.Holds cellSize (lastShape? updates) := by
  obtain ⟨g₁, hg₁, h₁⟩ := h.placeAll hu
  obtain ⟨g₂, hg₂, h₂⟩ := h₁.removeDeparted ((traversal.objects_perm g₁).filter _)
  refine ⟨g₂, ?_, h₂⟩
  rw [Grid.refreshBy, unplaceable?_eq_none_iff.2 (h.cellSize_eq ▸ hu)]
  exact bind_eq_ok_iff.2 ⟨g₁, hg₁, hg₂⟩

/-- Grids that hold the same shapes have the same candidates, in whatever order their cells are
    visited. -/
theorem Holds.candidates_perm (h : g.Holds cellSize shapes) (h' : g'.Holds cellSize shapes)
    (traversal : Traversal ι S) (scanner scanner' : Scanner ι) :
    (scanner.scanBy traversal g).finish.1.Perm (scanner'.scan g').finish.1 := by
  rw [Scan.finish_fst, Scan.finish_fst]
  refine (List.perm_ext_iff_of_nodup (nodup_proposals _ _) (nodup_proposals _ _)).2 fun p => ?_
  refine (h.consistent.mem_proposals scanner (traversal.cells_perm g) fun _ => .refl _).trans ?_
  refine .trans ?_ (h'.consistent.mem_proposals scanner' (.refl _) fun _ => .refl _).symm
  rw [h.near_iff, h'.near_iff]

/-- The test of a pair depends on the shapes only. -/
theorem Holds.confirms_eq (h : g.Holds cellSize shapes) (h' : g'.Holds cellSize shapes) :
    Tracker.confirms phase g = Tracker.confirms phase g' := by
  funext p
  simp only [Tracker.confirms, h.shape?_eq, h'.shape?_eq]

theorem Holds.asks_eq (h : g.Holds cellSize shapes) (h' : g'.Holds cellSize shapes) :
    Tracker.asks g = Tracker.asks g' := by
  funext p
  simp only [Tracker.asks, h.shape?_eq, h'.shape?_eq]

/-- Where the same shapes can be placed, the same updates are to blame. -/
theorem Alike.unplaceable?_eq (h : g.Alike g') (updates : List (Update ι S)) :
    g.unplaceable? updates = g'.unplaceable? updates := by
  simp only [unplaceable?, h.regionFor?_eq]

end Grid

/-! ## Rounds -/

namespace Tracker

variable {t t' t₁ t₁' : Tracker ι S} {test : (Pair ι → Bool) → List (Pair ι) → List (Pair ι)}

/-- In ascending order, a round is what it is without a traversal. -/
theorem tickBy_ascending : t.tickBy .ascending test updates = t.tickWith test updates := by
  rw [tickBy, tickWith]
  refine bind_congr fun g => ?_
  simp only [Contacts.updateBy_eq]
  rfl

/-- A tracker that is like one that is settled is settled too, if its grid holds the shapes. -/
theorem Alike.settled (ha : t.Alike t') (hholds : t.grid.Holds cellSize (lastShape? latest))
    (h' : t'.Settled cellSize phase latest) : t.Settled cellSize phase latest where
  holds := hholds
  phase_eq := ha.phase_eq.trans h'.phase_eq
  current := ha.contacts_eq ▸ h'.current
  mem_contacts := ha.contacts_eq ▸ h'.mem_contacts

/-- Rounds that end with the same contacts end alike. -/
theorem Alike.concludeWith (ha : t.Alike t') (contacts : Contacts ι) {g g' : Grid ι S}
    {shapes : ι → Option (Shape S)} (hg : g.Holds cellSize shapes) (hg' : g'.Holds cellSize shapes)
    (scanner scanner' : Scanner ι) {candidates candidates' confirmed confirmed' : List (Pair ι)}
    (hcandidates : candidates.Perm candidates') (hconfirmed : confirmed.Perm confirmed') :
    (t.concludeWith contacts g scanner candidates confirmed).1.Alike
        (t'.concludeWith contacts g' scanner' candidates' confirmed').1 ∧
      (t.concludeWith contacts g scanner candidates confirmed).2.Alike
        (t'.concludeWith contacts g' scanner' candidates' confirmed').2 := by
  have hgrid : g.Alike g' := hg.alike hg'
  have hrounds : t.rounds + 1 = t'.rounds + 1 := congrArg (· + 1) ha.rounds_eq
  have hcellSize : g.cellSize = g'.cellSize := hg.cellSize_eq.trans hg'.cellSize_eq.symm
  refine ⟨⟨hgrid, hcellSize, ha.phase_eq, rfl, ha.listeners_eq, hrounds⟩, rfl, ?_, ?_, ?_⟩
  · exact congrArg (Listener.deliveries · contacts.changes) ha.listeners_eq
  · simp only [Tracker.concludeWith, hg.asks_eq hg']
    exact hcandidates.filter _
  · simp only [Tracker.concludeWith, hrounds, hgrid.size_eq, hgrid.occupiedCount_eq,
      hcandidates.length_eq, hconfirmed.length_eq]

/-- One round, if all shapes can be placed. -/
theorem Settled.tickBy_alike (h : t.Settled cellSize phase latest)
    (h' : t'.Settled cellSize phase latest) (ha : t.Alike t') (htest : FindsEach test)
    (hu : Placeable cellSize updates) (traversal : Traversal ι S) :
    ∃ t₁ t₁' report report', t.tickBy traversal test updates = .ok (t₁, report) ∧
      t'.tickWith test updates = .ok (t₁', report') ∧ t₁.Alike t₁' ∧ report.Alike report' ∧
      t₁.Settled cellSize phase updates ∧ t₁'.Settled cellSize phase updates := by
  obtain ⟨g, hg, hholds⟩ := h.holds.refreshBy hu traversal
  obtain ⟨g', hg', hholds'⟩ := h'.holds.refresh hu
  let candidates := (t.scanner.scanBy traversal g).finish
  let candidates' := (t'.scanner.scan g').finish
  let confirmed := test (confirms t.phase g) candidates.1
  let confirmed' := test (confirms t'.phase g') candidates'.1
  have hcandidates : candidates.1.Perm candidates'.1 :=
    hholds.candidates_perm hholds' traversal t.scanner t'.scanner
  have hconfirmed : confirmed.Perm confirmed' := by
    have hconfirms : confirms t.phase g = confirms t'.phase g' :=
      ha.phase_eq ▸ hholds.confirms_eq hholds'
    refine (htest _ _).trans (.trans ?_ (htest _ _).symm)
    rw [hconfirms]
    exact hcandidates.filter _
  -- The contacts do not look at the order in which the round ends, or at that of the pairs.
  have hcontacts : t.contacts.updateBy traversal.sweep confirmed =
      t'.contacts.update confirmed' := by
    rw [Contacts.updateBy_eq, ← ha.contacts_eq]
    exact h.current.update_congr fun _ => hconfirmed.mem_iff
  have ht : t.tickBy traversal test updates = .ok (t.concludeWith (t'.contacts.update confirmed') g
      candidates.2.scanner candidates.1 confirmed) := by
    rw [← hcontacts]
    exact bind_eq_ok_iff.2 ⟨g, hg, rfl⟩
  have ht' : t'.tickWith test updates =
      .ok (t'.conclude g' candidates'.2.scanner candidates'.1 confirmed') :=
    bind_eq_ok_iff.2 ⟨g', hg', rfl⟩
  obtain ⟨ha₁, hreport⟩ := ha.concludeWith (t'.contacts.update confirmed') hholds hholds'
    candidates.2.scanner candidates'.2.scanner hcandidates hconfirmed
  have hsettled' := h'.tickWith htest.finds ht'
  exact ⟨_, _, _, _, ht, ht', ha₁, hreport, ha₁.settled hholds hsettled', hsettled'⟩

theorem tickBy_of_unplaceable {u : Update ι S} {traversal : Traversal ι S}
    (h : t.grid.unplaceable? updates = some u) :
    t.tickBy traversal test updates = .error (.unplaceableShape u.1) := by
  rw [tickBy, Grid.refreshBy, h]
  rfl

/-! ## Turns -/

/-- A turn that is a round, whether it fails or not. -/
theorem Settled.roundBy_alike (h : t.Settled cellSize phase latest)
    (h' : t'.Settled cellSize phase latest) (ha : t.Alike t') (htest : FindsEach test)
    {traversal : Traversal ι S} {turn : Turn ι S}
    (hturn : t.takeBy traversal turn =
      (fun (t, report) => (t, some ⟨updates, report⟩)) <$> t.tickBy traversal test updates)
    (hturn' : t'.take turn =
      (fun (t, report) => (t, some ⟨updates, report⟩)) <$> t'.tickWith test updates) :
    AlikeAnswer ((·.2) <$> t.takeBy traversal turn) ((·.2) <$> t'.take turn) ∧
      (t.afterBy traversal turn).Alike (t'.after turn) ∧
      ∃ latest, (t.afterBy traversal turn).Settled cellSize phase latest ∧
        (t'.after turn).Settled cellSize phase latest := by
  rw [afterBy, Tracker.after, hturn, hturn']
  cases hu : t'.grid.unplaceable? updates with
  | some u =>
    rw [tickBy_of_unplaceable ((ha.grid.unplaceable?_eq updates).trans hu),
      tickWith_of_unplaceable hu]
    exact ⟨.failed _, ha, latest, h, h'⟩
  | none =>
    have hplaceable : Placeable cellSize updates :=
      h'.holds.cellSize_eq ▸ Grid.unplaceable?_eq_none_iff.1 hu
    obtain ⟨t₁, t₁', report, report', ht, ht', ha₁, hreport, h₁, h₁'⟩ :=
      h.tickBy_alike h' ha htest hplaceable traversal
    rw [ht, ht']
    exact ⟨.told updates hreport, ha₁, updates, h₁, h₁'⟩

/-- One turn, whether it fails or not. -/
theorem Settled.takeBy_alike (h : t.Settled cellSize phase latest)
    (h' : t'.Settled cellSize phase latest) (ha : t.Alike t') (traversal : Traversal ι S)
    (turn : Turn ι S) :
    AlikeAnswer ((·.2) <$> t.takeBy traversal turn) ((·.2) <$> t'.take turn) ∧
      (t.afterBy traversal turn).Alike (t'.after turn) ∧
      ∃ latest, (t.afterBy traversal turn).Settled cellSize phase latest ∧
        (t'.after turn).Settled cellSize phase latest := by
  cases turn with
  | listen listener =>
    have hlisteners : t.listeners ++ [listener] = t'.listeners ++ [listener] :=
      congrArg (· ++ [listener]) ha.listeners_eq
    refine ⟨.joined, { ha with listeners_eq := hlisteners }, latest, ?_, ?_⟩
    · exact ⟨h.holds, h.phase_eq, h.current, h.mem_contacts⟩
    · exact ⟨h'.holds, h'.phase_eq, h'.current, h'.mem_contacts⟩
  | tick updates => exact h.roundBy_alike h' ha findsEach_filter rfl rfl
  | tickParallel schedule updates =>
    exact h.roundBy_alike h' ha (findsEach_schedule schedule) rfl rfl

/-! ## Runs -/

/-- Any number of turns, whether they fail or not. -/
theorem Settled.runBy_alike (h : t.Settled cellSize phase latest)
    (h' : t'.Settled cellSize phase latest) (ha : t.Alike t')
    (turns : List (Traversal ι S × Turn ι S)) :
    (t.runBy turns).Alike (t'.run (turns.map (·.2))) ∧
      List.Forall₂ AlikeAnswer (t.answersBy turns) (t'.answers (turns.map (·.2))) := by
  rw [runBy, Tracker.run]
  induction turns generalizing t t' latest with
  | nil => exact ⟨ha, .nil⟩
  | cons turn turns ih =>
    obtain ⟨traversal, turn⟩ := turn
    obtain ⟨hanswer, hafter, _, h₁, h₁'⟩ := h.takeBy_alike h' ha traversal turn
    obtain ⟨hrun, hanswers⟩ := ih h₁ h₁' hafter
    exact ⟨hrun, .cons hanswer hanswers⟩

/-- A run in which each round has a traversal of its own answers like the run in ascending order, and
    leads to a tracker that is like the one that this leads to. -/
theorem traversals_run {settings : Settings S} (h : build settings phase = .ok t)
    (turns : List (Traversal ι S × Turn ι S)) :
    (t.runBy turns).Alike (t.run (turns.map (·.2))) ∧
      List.Forall₂ AlikeAnswer (t.answersBy turns) (t.answers (turns.map (·.2))) := by
  have hnew := settled_of_build h
  exact hnew.runBy_alike hnew ⟨hnew.holds.alike hnew.holds, rfl, rfl, rfl, rfl, rfl⟩ turns

end Tracker

end Broadphase
