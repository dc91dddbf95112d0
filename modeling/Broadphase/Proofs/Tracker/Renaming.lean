import Broadphase.Proofs.NarrowPhase.Symmetry
import Broadphase.Proofs.Tracker.Rounds
import Mathlib.Logic.Embedding.Basic

/-!
# Renaming

What a tracker is told of are objects, and their handles are only names for
them. Under other handles, and with the updates of each round in another order,
the same rounds fail, and the others tell the same of the same objects
(`Tracker.renamed_run`). The order of the handles need not be kept, so the lower
handle of a pair may become the higher one (`Pair.rename`), and the pairs that
are told come in a new order (`Changes.rename`).

* `Renamed`: updates for other handles. Those for one handle stay in order, as the
  last of them is the one that counts (`Renamed.lastShape?_eq`);
* `interacting_rename`: the renamed pairs interact, as the narrow phase is
  symmetric;
* `Settled.renamed_tick`, `Settled.renamed_answers`: one round and many.
-/

namespace Broadphase

variable {ι S : Type} [Handle ι] {ρ : ι ↪ ι}

/-! ## Pairs -/

namespace Pair

variable {p q : Pair ι}

/-- The pair of the same objects under other handles. -/
def rename (ρ : ι ↪ ι) (p : Pair ι) : Pair ι :=
  (of? (ρ p.lo) (ρ p.hi)).get (isSome_of? (ρ.injective.ne p.lo_ne_hi))

theorem rename_eq_iff : p.rename ρ = q ↔
    ρ p.lo = q.lo ∧ ρ p.hi = q.hi ∨ ρ p.lo = q.hi ∧ ρ p.hi = q.lo := by
  rw [← of?_eq_some_iff, Option.eq_some_iff_get_eq, rename]
  exact ⟨fun h => ⟨_, h⟩, fun ⟨_, h⟩ => h⟩

/-- No two pairs become the same. -/
theorem rename_injective : Function.Injective (rename ρ) := by
  intro p q h
  have hp : p.rename ρ = q.rename ρ := h
  have hq : q.rename ρ = q.rename ρ := rfl
  rw [rename_eq_iff] at hp hq
  have hsame : p.lo = q.lo ∧ p.hi = q.hi ∨ p.lo = q.hi ∧ p.hi = q.lo := by
    rcases hp with ⟨hlo, hhi⟩ | ⟨hlo, hhi⟩ <;> rcases hq with ⟨hlo', hhi'⟩ | ⟨hlo', hhi'⟩
    · exact .inl ⟨ρ.injective (hlo.trans hlo'.symm), ρ.injective (hhi.trans hhi'.symm)⟩
    · exact .inr ⟨ρ.injective (hlo.trans hhi'.symm), ρ.injective (hhi.trans hlo'.symm)⟩
    · exact .inr ⟨ρ.injective (hlo.trans hhi'.symm), ρ.injective (hhi.trans hlo'.symm)⟩
    · exact .inl ⟨ρ.injective (hlo.trans hlo'.symm), ρ.injective (hhi.trans hhi'.symm)⟩
  -- A pair has one form only.
  exact Option.some.inj ((of?_lo_hi p).symm.trans (of?_eq_some_iff.2 hsame))

/-- Every pair of new handles is that of some old ones. -/
theorem exists_rename {a b : ι} (hlo : ρ a = q.lo) (hhi : ρ b = q.hi) :
    ∃ p : Pair ι, p.rename ρ = q := by
  have hne : a ≠ b := fun h => q.lo_ne_hi (hlo.symm.trans ((congrArg ρ h).trans hhi))
  obtain ⟨p, hp⟩ := Option.isSome_iff_exists.1 (isSome_of? hne)
  refine ⟨p, rename_eq_iff.2 ?_⟩
  rcases of?_eq_some_iff.1 hp with ⟨rfl, rfl⟩ | ⟨rfl, rfl⟩
  · exact .inl ⟨hlo, hhi⟩
  · exact .inr ⟨hhi, hlo⟩

end Pair

/-! ## Changes -/

namespace Changes

/-- The same changes under other handles, each list in the order of the new pairs. -/
def rename (ρ : ι ↪ ι) (c : Changes ι) : Changes ι :=
  sort ⟨c.ended.map (.rename ρ), c.ongoing.map (.rename ρ), c.started.map (.rename ρ)⟩

/-- The new pairs that have a property are the old ones that have it, renamed. -/
theorem mem_sort_map_rename {ps : List (Pair ι)} {P P' : Pair ι → Prop} (hps : ∀ p, p ∈ ps ↔ P p)
    (h : ∀ p : Pair ι, P' (p.rename ρ) ↔ P p) (hall : ∀ q, P' q → ∃ p : Pair ι, p.rename ρ = q)
    (q : Pair ι) : q ∈ Broadphase.sort (ps.map (Pair.rename ρ)) ↔ P' q := by
  rw [mem_sort, List.mem_map]
  constructor
  · rintro ⟨p, hp, rfl⟩
    exact (h p).2 ((hps p).1 hp)
  · intro hq
    obtain ⟨p, rfl⟩ := hall q hq
    exact ⟨p, (hps p).2 ((h p).1 hq), rfl⟩

theorem ascending_sort_map_rename {ps : List (Pair ι)} (h : Ascending ps) :
    Ascending (Broadphase.sort (ps.map (Pair.rename ρ))) :=
  ascending_sort (h.nodup.map Pair.rename_injective)

/-- Renamed changes are the changes between the renamed sets. -/
theorem Between.rename {old new old' new' : Pair ι → Prop} {c : Changes ι} (h : c.Between old new)
    (hold : ∀ p : Pair ι, old' (p.rename ρ) ↔ old p) (hnew : ∀ p : Pair ι, new' (p.rename ρ) ↔ new p)
    (hold' : ∀ q, old' q → ∃ p : Pair ι, p.rename ρ = q)
    (hnew' : ∀ q, new' q → ∃ p : Pair ι, p.rename ρ = q) : (c.rename ρ).Between old' new' where
  mem_started := mem_sort_map_rename h.mem_started
    (fun p => and_congr (hnew p) (not_congr (hold p))) fun q hq => hnew' q hq.1
  mem_ongoing := mem_sort_map_rename h.mem_ongoing
    (fun p => and_congr (hnew p) (hold p)) fun q hq => hnew' q hq.1
  mem_ended := mem_sort_map_rename h.mem_ended
    (fun p => and_congr (hold p) (not_congr (hnew p))) fun q hq => hold' q hq.1
  ascending_started := ascending_sort_map_rename h.ascending_started
  ascending_ongoing := ascending_sort_map_rename h.ascending_ongoing
  ascending_ended := ascending_sort_map_rename h.ascending_ended

end Changes

/-! ## Updates -/

/-- An update for another handle. -/
def Update.rename (ρ : ι ↪ ι) (u : Update ι S) : Update ι S := (ρ u.1, u.2)

/-- The same updates for other handles, in any order in which those for one handle stay in order. -/
structure Renamed (ρ : ι ↪ ι) (updates updates' : List (Update ι S)) : Prop where
  /-- Nothing is added, and nothing left out. -/
  perm : updates'.Perm (updates.map (Update.rename ρ))
  /-- The updates for one handle stay in order. -/
  order : ∀ id ∈ updates.map (·.1),
    updates'.filter (·.1 = ρ id) = (updates.filter (·.1 = id)).map (Update.rename ρ)

section Updates

variable {updates updates' : List (Update ι S)}

instance [DecidableEq S] : Decidable (Renamed ρ updates updates') :=
  decidable_of_iff (_ ∧ ∀ id ∈ updates.map (·.1), _)
    ⟨fun h => ⟨h.1, h.2⟩, fun h => ⟨h.perm, h.order⟩⟩

theorem lastShape?_filter (id : ι) :
    lastShape? (updates.filter (·.1 = id)) id = lastShape? updates id := by
  induction updates with
  | nil => rfl
  | cons u updates ih =>
    rw [List.filter_cons, lastShape?_cons, ← ih]
    by_cases h : u.1 = id
    · rw [if_pos (decide_eq_true h), lastShape?_cons]
    · rw [if_neg (by rwa [decide_eq_true_eq]), if_neg (Ne.symm h), Option.or_none]

theorem lastShape?_map_rename (id : ι) :
    lastShape? (updates.map (Update.rename ρ)) (ρ id) = lastShape? updates id := by
  induction updates with
  | nil => rfl
  | cons u updates ih =>
    rw [List.map_cons, lastShape?_cons, lastShape?_cons, ih]
    simp only [Update.rename, ρ.injective.eq_iff]

theorem Renamed.mem_handles_iff (h : Renamed ρ updates updates') {k : ι} :
    k ∈ updates'.map (·.1) ↔ ∃ id ∈ updates.map (·.1), ρ id = k := by
  rw [(h.perm.map _).mem_iff, List.map_map, ← List.mem_map, List.map_map]
  rfl

/-- An object has the same shape as under its old handle. -/
theorem Renamed.lastShape?_eq (h : Renamed ρ updates updates') (id : ι) :
    lastShape? updates' (ρ id) = lastShape? updates id := by
  by_cases hid : id ∈ updates.map (·.1)
  · rw [← lastShape?_filter, h.order id hid, lastShape?_map_rename, lastShape?_filter]
  · have hid' : ρ id ∉ updates'.map (·.1) := by
      rw [h.mem_handles_iff]
      rintro ⟨a, ha, heq⟩
      exact hid (ρ.injective heq ▸ ha)
    rw [← isSome_lastShape?, Option.not_isSome_iff_eq_none] at hid hid'
    rw [hid, hid']

/-- There are no other objects. -/
theorem Renamed.exists_handle (h : Renamed ρ updates updates') {k : ι} {shape : Shape S}
    (hk : lastShape? updates' k = some shape) : ∃ id, ρ id = k := by
  obtain ⟨id, -, hid⟩ := h.mem_handles_iff.1 (isSome_lastShape?.1 (Option.isSome_of_eq_some hk))
  exact ⟨id, hid⟩

theorem Renamed.placeable_iff [Scalar S] (h : Renamed ρ updates updates') {cellSize : S} :
    Placeable cellSize updates' ↔ Placeable cellSize updates := by
  simp only [Placeable, h.perm.mem_iff, List.forall_mem_map, Update.rename]

end Updates

/-! ## Interacting pairs -/

variable [Scalar S]

theorem Groups.shares_comm (a b : Groups) : a.shares b = b.shares a := by
  rw [Bool.eq_iff_iff, shares_iff, shares_iff]
  exact exists_congr fun _ => and_comm

theorem Shape.near_comm {cellSize : S} {a b : Shape S} : a.Near cellSize b ↔ b.Near cellSize a := by
  have h {a b : Shape S} : a.Near cellSize b → b.Near cellSize a := fun ⟨r, r', hr, hr', hnear⟩ =>
    ⟨r', r, hr', hr, Region.near_comm.1 hnear⟩
  exact ⟨h, h⟩

section Interacting

variable {cellSize : S} {phase : NarrowPhase ι S} {shapes shapes' : ι → Option (Shape S)}
  {p q : Pair ι}

/-- Whether two objects interact depends on their shapes only. -/
theorem interacting_congr (hphase : phase.Symmetric) (hlo : shapes' q.lo = shapes p.lo)
    (hhi : shapes' q.hi = shapes p.hi) :
    Interacting cellSize phase shapes' q ↔ Interacting cellSize phase shapes p := by
  have hconf (a b : Shape S) : phase.confirms q a b = phase.confirms p a b :=
    (hphase q p a b).trans (hphase p p b a)
  simp only [Interacting, hlo, hhi, hconf]

/-- It makes no difference which of them has the lower handle. -/
theorem interacting_swap (hphase : phase.Symmetric) (hlo : shapes' q.lo = shapes p.hi)
    (hhi : shapes' q.hi = shapes p.lo) :
    Interacting cellSize phase shapes' q ↔ Interacting cellSize phase shapes p := by
  rw [Interacting, Interacting, exists_comm]
  refine exists₂_congr fun a b => ?_
  rw [hlo, hhi, ← and_assoc, and_comm (a := shapes p.hi = some b), and_assoc, Shape.near_comm,
    Groups.shares_comm, hphase q p]

/-- Objects interact as they do under their old handles. -/
theorem interacting_rename (hphase : phase.Symmetric) (h : ∀ id, shapes' (ρ id) = shapes id)
    (p : Pair ι) : Interacting cellSize phase shapes' (p.rename ρ) ↔
      Interacting cellSize phase shapes p := by
  rcases Pair.rename_eq_iff.1 (rfl : p.rename ρ = p.rename ρ) with ⟨hlo, hhi⟩ | ⟨hlo, hhi⟩
  · exact interacting_congr hphase (hlo ▸ h p.lo) (hhi ▸ h p.hi)
  · exact interacting_swap hphase (hhi ▸ h p.hi) (hlo ▸ h p.lo)

/-- All that interact have old handles. -/
theorem Renamed.exists_rename {updates updates' : List (Update ι S)}
    (h : Renamed ρ updates updates') {q : Pair ι}
    (hq : Interacting cellSize phase (lastShape? updates') q) : ∃ p : Pair ι, p.rename ρ = q := by
  obtain ⟨a, b, ha, hb, -⟩ := hq
  obtain ⟨id, hlo⟩ := h.exists_handle ha
  obtain ⟨id', hhi⟩ := h.exists_handle hb
  exact Pair.exists_rename hlo hhi

end Interacting

/-! ## Rounds -/

/-- What a round comes to, and what the same round comes to under other handles. -/
inductive RenamedAnswer (ρ : ι ↪ ι) : Except (GridError ι) (Option (Round ι S)) →
    Except (GridError ι) (Option (Round ι S)) → Prop
  /-- Both fail. -/
  | failed (e e' : GridError ι) : RenamedAnswer ρ (.error e) (.error e')
  /-- Neither fails, and the changes are the same ones, renamed. -/
  | told {round round' : Round ι S} (h : round'.report.changes = round.report.changes.rename ρ) :
    RenamedAnswer ρ (.ok (some round)) (.ok (some round'))

namespace Tracker

variable {t t' : Tracker ι S} {cellSize : S} {phase : NarrowPhase ι S}
  {latest latest' updates updates' : List (Update ι S)}

theorem take_of_ok {report : Report ι} (h : t.tick updates = .ok (t', report)) :
    t.take (.tick updates) = .ok (t', some ⟨updates, report⟩) := by
  rw [take, h]
  rfl

theorem take_of_error {e : GridError ι} (h : t.tick updates = .error e) :
    t.take (.tick updates) = .error e := by
  rw [take, h]
  rfl

/-- A round fails if a shape cannot be placed. -/
theorem Settled.exists_error (h : t.Settled cellSize phase latest)
    (hu : ¬ Placeable cellSize updates) : ∃ e, t.tick updates = .error e := by
  rcases h.tickWith_cases List.filter updates with ⟨u, -, ht⟩ | ⟨hnone, -⟩
  · exact ⟨_, ht⟩
  · exact absurd (h.holds.cellSize_eq ▸ Grid.unplaceable?_eq_none_iff.1 hnone) hu

/-- Two trackers that have been told of the same objects tell the same of the same round. -/
theorem Settled.changes_rename {t₁ t₁' : Tracker ι S} {report report' : Report ι}
    (hphase : phase.Symmetric) (h : t.Settled cellSize phase latest)
    (h' : t'.Settled cellSize phase latest') (hlatest : Renamed ρ latest latest')
    (hupdates : Renamed ρ updates updates') (ht : t.tick updates = .ok (t₁, report))
    (ht' : t'.tick updates' = .ok (t₁', report')) :
    report'.changes = report.changes.rename ρ := by
  have hrenamed := (h.isRound finds_filter ht).between.rename
    (interacting_rename hphase hlatest.lastShape?_eq)
    (interacting_rename hphase hupdates.lastShape?_eq)
    (fun _ => hlatest.exists_rename) fun _ => hupdates.exists_rename
  exact (h'.isRound finds_filter ht').between.unique hrenamed

/-- One round, after which the trackers have again been told of the same objects. -/
theorem Settled.renamed_tick (hphase : phase.Symmetric) (h : t.Settled cellSize phase latest)
    (h' : t'.Settled cellSize phase latest') (hlatest : Renamed ρ latest latest')
    (hupdates : Renamed ρ updates updates') :
    RenamedAnswer ρ ((·.2) <$> t.take (.tick updates)) ((·.2) <$> t'.take (.tick updates')) ∧
      ∃ latest latest', Renamed ρ latest latest' ∧
        (t.after (.tick updates)).Settled cellSize phase latest ∧
        (t'.after (.tick updates')).Settled cellSize phase latest' := by
  rw [Tracker.after, Tracker.after]
  by_cases hu : Placeable cellSize updates
  · obtain ⟨t₁, report, ht⟩ : ∃ t₁ report, t.tick updates = .ok (t₁, report) := h.exists_tickWith hu
    obtain ⟨t₁', report', ht'⟩ : ∃ t₁' report', t'.tick updates' = .ok (t₁', report') :=
      h'.exists_tickWith (hupdates.placeable_iff.2 hu)
    rw [take_of_ok ht, take_of_ok ht']
    exact ⟨.told (h.changes_rename hphase h' hlatest hupdates ht ht'), updates, updates', hupdates,
      h.tickWith finds_filter ht, h'.tickWith finds_filter ht'⟩
  · obtain ⟨e, ht⟩ := h.exists_error hu
    obtain ⟨e', ht'⟩ := h'.exists_error (mt hupdates.placeable_iff.1 hu)
    rw [take_of_error ht, take_of_error ht']
    exact ⟨.failed e e', latest, latest', hlatest, h, h'⟩

/-- Any number of rounds. -/
theorem Settled.renamed_answers {rounds rounds' : List (List (Update ι S))}
    (hphase : phase.Symmetric) (h : t.Settled cellSize phase latest)
    (h' : t'.Settled cellSize phase latest') (hlatest : Renamed ρ latest latest')
    (hrounds : List.Forall₂ (Renamed ρ) rounds rounds') :
    List.Forall₂ (RenamedAnswer ρ) (t.answers (rounds.map .tick))
      (t'.answers (rounds'.map .tick)) := by
  induction hrounds generalizing t t' latest latest' with
  | nil => exact .nil
  | cons hupdates _ ih =>
    obtain ⟨hanswer, _, _, hlatest₁, h₁, h₁'⟩ := h.renamed_tick hphase h' hlatest hupdates
    exact .cons hanswer (ih h₁ h₁' hlatest₁)

/-- Under other handles, and with the updates of each round in another order, the same rounds fail,
    and the others tell the same changes, renamed. -/
theorem renamed_run {settings : Settings S} (hS : Scalar.Symmetric S) (hphase : phase.Provided)
    (h : build settings phase = .ok t) {rounds rounds' : List (List (Update ι S))}
    (hrounds : List.Forall₂ (Renamed ρ) rounds rounds') :
    phase.Symmetric ∧ List.Forall₂ (RenamedAnswer ρ) (t.answers (rounds.map .tick))
      (t.answers (rounds'.map .tick)) := by
  have hnew := settled_of_build h
  exact ⟨hphase.symmetric hS, hnew.renamed_answers (hphase.symmetric hS) hnew ⟨.nil, nofun⟩ hrounds⟩

/-- Handles in the opposite order. A disk and a box, which is given twice, come close to each other,
    a round fails, and they part again. -/
theorem renamed_run_reverse :
    let t : Tracker UInt32 ℚ := ⟨.empty 2, .new, .withinRange 1, .new, [], 0⟩
    let ρ : UInt32 ↪ UInt32 := ⟨fun n => ~~~n, fun _ _ h => UInt32.not_inj.1 h⟩
    let disk (x r : ℚ) : Shape ℚ := { position := ⟨x, 0⟩, extent := .disk r }
    let box (x : ℚ) : Shape ℚ := { position := ⟨x, 0⟩, extent := .box 1 (1 / 2) }
    let rounds : List (List (Update UInt32 ℚ)) := [
      [(1, disk 0 1), (2, box 9), (2, box 3)],
      [(1, disk 0 1), (2, box 3), (3, disk 0 (-1))],
      [(2, box 9), (1, disk 0 1)]]
    let rounds' : List (List (Update UInt32 ℚ)) := [
      [(~~~2, box 9), (~~~2, box 3), (~~~1, disk 0 1)],
      [(~~~3, disk 0 (-1)), (~~~1, disk 0 1), (~~~2, box 3)],
      [(~~~1, disk 0 1), (~~~2, box 9)]]
    build { cellSize := (2 : ℚ) } (.withinRange 1) = .ok t ∧
      List.Forall₂ (Renamed ρ) rounds rounds' ∧ t.phase.Symmetric ∧
        List.Forall₂ (RenamedAnswer ρ) (t.answers (rounds.map .tick))
          (t.answers (rounds'.map .tick)) := by
  have h : build { cellSize := (2 : ℚ) } (.withinRange 1) =
      .ok (⟨.empty 2, .new, .withinRange 1, .new, [], 0⟩ : Tracker UInt32 ℚ) :=
    build_eq_ok_iff.2 ⟨by decide +kernel, rfl⟩
  intro t ρ disk box rounds rounds'
  have hrounds : List.Forall₂ (Renamed ρ) rounds rounds' :=
    .cons (by decide +kernel) (.cons (by decide +kernel) (.cons (by decide +kernel) .nil))
  exact ⟨h, hrounds, renamed_run Scalar.symmetric_exact (.withinRange 1) h hrounds⟩

end Tracker

end Broadphase
