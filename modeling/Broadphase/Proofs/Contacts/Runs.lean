import Broadphase.Contacts.Sweep
import Broadphase.Proofs.Contacts.Rounds
import Mathlib.Data.List.Nodup

/-!
# Runs of contacts

After any number of rounds, whatever sweeps they end with, the contacts are the
pairs that the latest round confirmed, and they tell what has changed from the
one before (`follows_run`).

* `foldl_visit`: what a sweep leaves, and what it notes down;
* `updateBy_eq`: a round that ends with a sweep is one that is settled at once,
  because no pair has ended before the end;
* `Recorded.follows`: one round;
* `fits_run`: the numbers of rounds are words, unless there are `2 ^ 64` of them.
-/

namespace Broadphase.Contacts

variable {ι : Type} [Handle ι] {c : Contacts ι} {p : Pair ι}

/-! ## Sweeps -/

/-- The pairs whose records are out of date, among some records. -/
def outdated (c : Contacts ι) (entries : List (Pair ι × Record)) : List (Pair ι) :=
  (entries.filter fun (_, r) => r.round ≠ c.round).map (·.1)

theorem mem_outdated {entries : List (Pair ι × Record)} :
    p ∈ c.outdated entries ↔ ∃ r, (p, r) ∈ entries ∧ r.round ≠ c.round := by
  simp only [outdated, List.mem_map, List.mem_filter, decide_eq_true_eq, Prod.exists,
    exists_and_right, exists_eq_right]

/-- Visiting records drops those that are out of date, and notes down their pairs. -/
theorem foldl_visit (c : Contacts ι) (entries : List (Pair ι × Record)) :
    entries.foldl visit c = { c with
      records := (c.outdated entries).foldl (·.erase ·) c.records
      changes := { c.changes with
        ended := (c.outdated entries).reverse ++ c.changes.ended } } := by
  induction entries generalizing c with
  | nil => rfl
  | cons entry entries ih =>
    obtain ⟨p, r⟩ := entry
    rw [List.foldl_cons, ih, visit]
    by_cases hr : r.round = c.round
    · have hskip : c.outdated ((p, r) :: entries) = c.outdated entries := by
        rw [outdated, List.filter_cons_of_neg (by simpa using hr), outdated]
      rw [if_pos hr, hskip]
    · have hdrop : c.outdated ((p, r) :: entries) = p :: c.outdated entries := by
        rw [outdated, List.filter_cons_of_pos (by simpa using hr), List.map_cons, outdated]
      rw [if_neg hr, hdrop, List.reverse_cons, List.append_assoc, List.foldl_cons]
      rfl

/-- What is left after erasing some keys. -/
theorem getElem?_foldl_erase (records : Std.ExtTreeMap (Pair ι) Record) (ps : List (Pair ι)) :
    (ps.foldl (·.erase ·) records)[p]? = if p ∈ ps then none else records[p]? := by
  induction ps generalizing records with
  | nil => rfl
  | cons q ps ih =>
    rw [List.foldl_cons, ih, getElem?_erase_ite]
    simp only [List.mem_cons]
    by_cases hq : p = q
    · simp only [hq, if_true, ite_self, true_or]
    · simp only [hq, if_false, false_or]

/-- A sweep settles a round, if no pair has ended before. -/
theorem settleBy_eq (sweep : Sweep ι) (h : c.changes.ended = []) :
    c.settleBy sweep = c.settle := by
  have hmem (q : Pair ι) : q ∈ c.outdated (sweep.visits c) ↔
      ∃ r, c.records[q]? = some r ∧ r.round ≠ c.round := by
    rw [mem_outdated]
    simp only [(sweep.visits_perm c).mem_iff, Std.ExtTreeMap.mem_toList_iff_getElem?_eq_some]
  have hnodup : (c.outdated (sweep.visits c)).Nodup := by
    have hkeys : ((sweep.visits c).map (·.1)).Nodup := by
      rw [((sweep.visits_perm c).map _).nodup_iff, Std.ExtTreeMap.map_fst_toList_eq_keys]
      exact Std.ExtTreeMap.nodup_keys
    exact hkeys.sublist (List.filter_sublist.map _)
  have hended : sort ((c.outdated (sweep.visits c)).reverse ++ c.changes.ended) =
      c.settle.changes.ended := by
    rw [h, List.append_nil]
    refine (ascending_sort (List.nodup_reverse.2 hnodup)).ext
      (ascending_sort Std.ExtTreeMap.nodup_keys) fun q => ?_
    rw [mem_sort, List.mem_reverse, hmem]
    exact mem_ended_settle.symm
  have hrecords : (c.outdated (sweep.visits c)).foldl (·.erase ·) c.records =
      c.settle.records := by
    refine Std.ExtTreeMap.ext_getElem? fun q => ?_
    simp only [getElem?_foldl_erase, settle, Std.ExtTreeMap.getElem?_filter', hmem]
    cases c.records[q]? with
    | none => simp
    | some r => by_cases hr : r.round = c.round <;> simp [Option.filter_some, hr]
  rw [settleBy, foldl_visit]
  simp only [Changes.sort, hended, hrecords]
  rfl

/-- No pair ends by being confirmed. -/
theorem ended_confirm (c : Contacts ι) (p : Pair ι) :
    (c.confirm p).changes.ended = c.changes.ended := by
  simp only [confirm]
  split
  case isTrue => rfl
  case isFalse => split <;> rfl

theorem ended_foldl_confirm (c : Contacts ι) (confirmed : List (Pair ι)) :
    (confirmed.foldl confirm c).changes.ended = c.changes.ended := by
  induction confirmed generalizing c with
  | nil => rfl
  | cons p confirmed ih => rw [List.foldl_cons, ih, ended_confirm]

/-- A round can end with any sweep. -/
theorem updateBy_eq (sweep : Sweep ι) (c : Contacts ι) (confirmed : List (Pair ι)) :
    c.updateBy sweep confirmed = c.update confirmed :=
  settleBy_eq sweep (ended_foldl_confirm c.advance confirmed)

/-! ## Rounds -/

/-- What the contacts are after a round that confirmed some pairs, if the round before it confirmed
    others. -/
structure Follows (before confirmed : List (Pair ι)) (c : Contacts ι) : Prop where
  /-- What is told is what has changed, in order. -/
  between : c.changes.Between (· ∈ before) (· ∈ confirmed)
  /-- No pair has started and is ongoing. -/
  started_disjoint_ongoing : c.changes.started.Disjoint c.changes.ongoing
  /-- No pair has started and ended. -/
  started_disjoint_ended : c.changes.started.Disjoint c.changes.ended
  /-- No pair is ongoing and has ended. -/
  ongoing_disjoint_ended : c.changes.ongoing.Disjoint c.changes.ended
  /-- The contacts are the confirmed pairs. -/
  mem_iff : ∀ p, p ∈ c ↔ p ∈ confirmed
  /-- A contact is ongoing if the round before confirmed it too. -/
  stage?_eq : ∀ p ∈ confirmed, c.stage? p = some (if p ∈ before then .ongoing else .started)

/-- Between two rounds, what the contacts have to do with the pairs of the latest one, if there have
    been so many. -/
structure Recorded (rounds : Nat) (confirmed : List (Pair ι)) (c : Contacts ι) : Prop where
  /-- The rounds are counted. -/
  round_eq : c.round = rounds
  /-- The records are those of the latest round. -/
  current : c.Current
  /-- They are records of the confirmed pairs. -/
  mem_iff : ∀ p, p ∈ c ↔ p ∈ confirmed

variable {n : Nat} {before : List (Pair ι)}

theorem recorded_new : Recorded 0 [] (new : Contacts ι) :=
  ⟨rfl, current_new, fun _ => iff_of_false Std.ExtTreeMap.not_mem_empty List.not_mem_nil⟩

/-- One round, in terms of what is recorded. -/
theorem Recorded.update (h : c.Recorded n before) (confirmed : List (Pair ι)) :
    (c.update confirmed).Recorded (n + 1) confirmed where
  round_eq := by
    rw [← h.round_eq]
    exact (h.current.counted confirmed).round_eq
  current := h.current.update confirmed
  mem_iff _ := h.current.mem_update

/-- One round, in terms of what is told of it. -/
theorem Recorded.follows (h : c.Recorded n before) (confirmed : List (Pair ι)) :
    (c.update confirmed).Follows before confirmed := by
  have hbetween := (h.current.between_update confirmed).congr h.mem_iff fun p =>
    h.current.mem_update
  refine ⟨hbetween, fun p hs ho => ?_, fun p hs he => ?_, fun p ho he => ?_,
    fun p => h.current.mem_update, fun p hp => ?_⟩
  · exact ((hbetween.mem_started p).1 hs).2 ((hbetween.mem_ongoing p).1 ho).2
  · exact ((hbetween.mem_ended p).1 he).2 ((hbetween.mem_started p).1 hs).1
  · exact ((hbetween.mem_ended p).1 he).2 ((hbetween.mem_ongoing p).1 ho).1
  · rw [stage?, h.current.record?_update, if_pos hp]
    simp only [Option.map_some, nextRecord, h.mem_iff]

/-! ## Runs -/

/-- Any number of rounds, in any order of visiting the records. -/
theorem Recorded.run (h : c.Recorded n before) (rounds : List (List (Pair ι) × Sweep ι)) :
    (c.run rounds).Recorded (n + rounds.length) ((rounds.map (·.1)).getLastD before) := by
  induction rounds generalizing c n before with
  | nil => exact h
  | cons round rounds ih =>
    have hround : (c.updateBy round.2 round.1).Recorded (n + 1) round.1 := by
      rw [updateBy_eq]
      exact h.update round.1
    have hrest := ih hround
    rw [List.length_cons, List.map_cons, List.getLastD_cons, Nat.add_comm rounds.length,
      ← Nat.add_assoc]
    exact hrest

/-- For as long as there have been fewer than `2 ^ 64` rounds, their numbers are 64-bit words. -/
theorem fits_run (rounds : List (List (Pair ι) × Sweep ι)) (h : rounds.length < UInt64.size) :
    (new.run rounds).Fits := by
  have hrun := recorded_new.run rounds
  refine hrun.current.fits ?_
  rwa [hrun.round_eq, Nat.zero_add]

/-- After any number of rounds, in any order of visiting the records: the next round tells what has
    changed from the latest one, and its pairs are the contacts from then on. The number that the
    next round puts on records is the number of rounds; `fits_run` tells for how long this is a
    64-bit word. -/
theorem follows_run (rounds : List (List (Pair ι) × Sweep ι)) (confirmed : List (Pair ι))
    (sweep : Sweep ι) :
    let c := (new.run rounds).updateBy sweep confirmed
    c.round = rounds.length + 1 ∧ c.Follows ((rounds.map (·.1)).getLastD []) confirmed := by
  have h := recorded_new.run rounds
  intro c
  have hc : c = (new.run rounds).update confirmed := updateBy_eq sweep _ confirmed
  rw [hc]
  exact ⟨by rw [(h.update confirmed).round_eq, Nat.zero_add], h.follows confirmed⟩

end Broadphase.Contacts
