import Broadphase.Contacts
import Broadphase.Proofs.Maps

/-!
# Rounds of contacts

Between two rounds, each record bears the number of the latest one
(`Contacts.Current`). A round that starts out from there counts each confirmed
pair once, however often it is confirmed:

* `Contacts.Counted`: what holds while the pairs of a round are confirmed, in
  terms of the pairs seen so far. `Counted.confirm` is one more pair, and
  `Counted.foldl` all of them;
* `Current.record?_update`, `Current.between_update`: the records after the round,
  and what it tells;
* `Current.update_congr`: so the order in which pairs are confirmed makes no
  difference to a round, and neither does confirming a pair again.
-/

namespace Broadphase

variable {ι : Type} [Handle ι]

/-- The changes from one set of pairs to another, each list in order and with each pair once. -/
structure Changes.Between (old new : Pair ι → Prop) (changes : Changes ι) : Prop where
  /-- A pair has started if it is new. -/
  mem_started : ∀ p, p ∈ changes.started ↔ new p ∧ ¬ old p
  /-- A pair is ongoing if it is still there. -/
  mem_ongoing : ∀ p, p ∈ changes.ongoing ↔ new p ∧ old p
  /-- A pair has ended if it is no longer there. -/
  mem_ended : ∀ p, p ∈ changes.ended ↔ old p ∧ ¬ new p
  /-- The started pairs are in order. -/
  ascending_started : Ascending changes.started
  /-- The ongoing pairs are in order. -/
  ascending_ongoing : Ascending changes.ongoing
  /-- The ended pairs are in order. -/
  ascending_ended : Ascending changes.ended

theorem Changes.Between.congr {old old' new new' : Pair ι → Prop} {changes : Changes ι}
    (h : changes.Between old new) (hold : ∀ p, old p ↔ old' p) (hnew : ∀ p, new p ↔ new' p) :
    changes.Between old' new' := by
  obtain rfl : old = old' := funext fun p => propext (hold p)
  obtain rfl : new = new' := funext fun p => propext (hnew p)
  exact h

/-- Two sets of pairs determine the changes from one to the other. -/
theorem Changes.Between.unique {old new : Pair ι → Prop} {changes changes' : Changes ι}
    (h : changes.Between old new) (h' : changes'.Between old new) : changes = changes' := by
  refine Changes.ext ?_ ?_ ?_
  · exact h.ascending_ended.ext h'.ascending_ended fun p =>
      (h.mem_ended p).trans (h'.mem_ended p).symm
  · exact h.ascending_ongoing.ext h'.ascending_ongoing fun p =>
      (h.mem_ongoing p).trans (h'.mem_ongoing p).symm
  · exact h.ascending_started.ext h'.ascending_started fun p =>
      (h.mem_started p).trans (h'.mem_started p).symm

namespace Contacts

variable {c c₀ : Contacts ι} {p : Pair ι} {seen confirmed : List (Pair ι)}

/-- Each record bears the number of the latest round, and there has been one. -/
def Current (c : Contacts ι) : Prop := ∀ (p : Pair ι) r, c.records[p]? = some r →
  r.round = c.round ∧ 0 < r.round

theorem current_new : (new : Contacts ι).Current := by
  intro p r h
  exact absurd (Std.ExtTreeMap.getElem?_empty.symm.trans h) nofun

theorem mem_iff : p ∈ c ↔ ∃ r, c.records[p]? = some r := by
  rw [← Option.isSome_iff_exists]
  exact Std.ExtTreeMap.mem_iff_isSome_getElem?

/-- The record of a pair in the round after `c`, once it is confirmed. -/
def nextRecord (c : Contacts ι) (p : Pair ι) : Record :=
  ⟨if p ∈ c then .ongoing else .started, c.round + 1⟩

/-- What holds in the round after `c₀` when some pairs have been seen: these have been recorded and
    counted, and the others have not been touched. -/
structure Counted (c₀ : Contacts ι) (seen : List (Pair ι)) (c : Contacts ι) : Prop where
  /-- The round has a number of its own. -/
  round_eq : c.round = c₀.round + 1
  /-- The records of the others are still the old ones. -/
  record? : ∀ p, c.records[p]? = if p ∈ seen then some (c₀.nextRecord p) else c₀.records[p]?
  /-- The pairs seen that are new have started. -/
  mem_started : ∀ p, p ∈ c.changes.started ↔ p ∈ seen ∧ p ∉ c₀
  /-- The pairs seen that are not new are ongoing. -/
  mem_ongoing : ∀ p, p ∈ c.changes.ongoing ↔ p ∈ seen ∧ p ∈ c₀
  /-- No pair has started twice. -/
  nodup_started : c.changes.started.Nodup
  /-- No pair is ongoing twice. -/
  nodup_ongoing : c.changes.ongoing.Nodup

/-! ## Confirmation -/

/-- At the beginning of a round, no pair has been seen. -/
theorem counted_advance (c : Contacts ι) : c.Counted [] c.advance where
  round_eq := rfl
  record? _ := rfl
  mem_started _ := by simp [advance, Changes.none]
  mem_ongoing _ := by simp [advance, Changes.none]
  nodup_started := .nil
  nodup_ongoing := .nil

/-- A pair whose record bears the number of the round has been counted. -/
theorem confirm_of_current (h : (c.records[p]?.getD ⟨.started, 0⟩).round = c.round) :
    c.confirm p = c := by
  rw [confirm, if_pos h]

/-- A pair without a record has started. -/
theorem confirm_of_new (h : c.records[p]? = none) (hpos : 0 < c.round) :
    c.confirm p = { c with
      records := c.records.insert p ⟨.started, c.round⟩
      changes := { c.changes with started := p :: c.changes.started } } := by
  simp only [confirm, h, Option.getD_none, if_neg (Nat.ne_of_lt hpos), ↓reduceIte]

/-- A pair with an older record is ongoing. -/
theorem confirm_of_old {r : Record} (h : c.records[p]? = some r) (hne : r.round ≠ c.round)
    (hpos : 0 < r.round) : c.confirm p = { c with
      records := c.records.insert p ⟨.ongoing, c.round⟩
      changes := { c.changes with ongoing := p :: c.changes.ongoing } } := by
  simp only [confirm, h, Option.getD_some, if_neg hne, if_neg (Nat.ne_of_gt hpos)]

theorem getElem?_insert_nextRecord {r : Record} (hrec : ∀ q, c.records[q]? =
      if q ∈ seen then some (c₀.nextRecord q) else c₀.records[q]?)
    (hr : r = c₀.nextRecord p) (q : Pair ι) : (c.records.insert p r)[q]? =
      if q ∈ p :: seen then some (c₀.nextRecord q) else c₀.records[q]? := by
  simp only [getElem?_insert_ite, List.mem_cons]
  by_cases hq : q = p
  · subst hq
    rw [if_pos rfl, if_pos (.inl rfl), hr]
  · simp only [hq, if_false, false_or, hrec]

/-- A pair that has been seen is not counted again. -/
theorem Counted.confirm_seen (h : c₀.Counted seen c) (hseen : p ∈ seen) :
    c₀.Counted (p :: seen) (c.confirm p) := by
  have hrec := h.record? p
  rw [if_pos hseen] at hrec
  rw [confirm_of_current (by rw [hrec, h.round_eq]; rfl)]
  have hmem (q : Pair ι) : q ∈ p :: seen ↔ q ∈ seen := by
    rw [List.mem_cons]
    exact or_iff_right_of_imp fun hq => hq ▸ hseen
  exact ⟨h.round_eq, by simpa only [hmem] using h.record?,
    by simpa only [hmem] using h.mem_started, by simpa only [hmem] using h.mem_ongoing,
    h.nodup_started, h.nodup_ongoing⟩

/-- A pair without a record starts. -/
theorem Counted.confirm_new (h : c₀.Counted seen c) (hseen : p ∉ seen) (hp : p ∉ c₀) :
    c₀.Counted (p :: seen) (c.confirm p) := by
  have hpos : 0 < c.round := h.round_eq ▸ Nat.succ_pos _
  have hrec := h.record? p
  rw [if_neg hseen, Std.ExtTreeMap.getElem?_eq_none hp] at hrec
  rw [confirm_of_new hrec hpos]
  refine ⟨h.round_eq, getElem?_insert_nextRecord h.record? ?_, fun q => ?_, fun q => ?_,
    List.nodup_cons.2 ⟨?_, h.nodup_started⟩, h.nodup_ongoing⟩
  · rw [nextRecord, if_neg hp, h.round_eq]
  · rw [List.mem_cons, List.mem_cons, h.mem_started, or_and_right]
    exact or_congr_left (iff_self_and.2 fun hq => hq ▸ hp)
  · rw [List.mem_cons, h.mem_ongoing, or_and_right]
    exact (or_iff_right fun ⟨hq, hmem⟩ => hp (hq ▸ hmem)).symm
  · intro hmem
    exact hseen ((h.mem_started p).1 hmem).1

/-- A pair with the record of the round before goes on. -/
theorem Counted.confirm_old (h : c₀.Counted seen c) (hc₀ : c₀.Current) (hseen : p ∉ seen)
    (hp : p ∈ c₀) : c₀.Counted (p :: seen) (c.confirm p) := by
  obtain ⟨r, hr⟩ := mem_iff.1 hp
  obtain ⟨hround, hpos⟩ := hc₀ p r hr
  have hne : r.round ≠ c.round := by
    rw [hround, h.round_eq]
    exact Nat.ne_add_one _
  have hrec := h.record? p
  rw [if_neg hseen, hr] at hrec
  rw [confirm_of_old hrec hne hpos]
  refine ⟨h.round_eq, getElem?_insert_nextRecord h.record? ?_, fun q => ?_, fun q => ?_,
    h.nodup_started, List.nodup_cons.2 ⟨?_, h.nodup_ongoing⟩⟩
  · rw [nextRecord, if_pos hp, h.round_eq]
  · rw [List.mem_cons, h.mem_started, or_and_right]
    exact (or_iff_right fun ⟨hq, hmem⟩ => hmem (hq ▸ hp)).symm
  · rw [List.mem_cons, List.mem_cons, h.mem_ongoing, or_and_right]
    exact or_congr_left (iff_self_and.2 fun hq => hq ▸ hp)
  · intro hmem
    exact hseen ((h.mem_ongoing p).1 hmem).1

/-- One more pair is confirmed. -/
theorem Counted.confirm (h : c₀.Counted seen c) (hc₀ : c₀.Current) (p : Pair ι) :
    c₀.Counted (p :: seen) (c.confirm p) := by
  by_cases hseen : p ∈ seen
  · exact h.confirm_seen hseen
  by_cases hp : p ∈ c₀
  · exact h.confirm_old hc₀ hseen hp
  · exact h.confirm_new hseen hp

/-- Some pairs are confirmed in turn. -/
theorem Counted.foldl (h : c₀.Counted seen c) (hc₀ : c₀.Current) (confirmed : List (Pair ι)) :
    c₀.Counted (confirmed.reverse ++ seen) (confirmed.foldl Contacts.confirm c) := by
  induction confirmed generalizing seen c with
  | nil => exact h
  | cons p confirmed ih =>
    rw [List.reverse_cons, List.append_assoc]
    exact ih (h.confirm hc₀ p)

/-! ## Rounds -/

/-- When all pairs of a round have been confirmed, these have been counted. -/
theorem Current.counted (h : c.Current) (confirmed : List (Pair ι)) :
    c.Counted confirmed.reverse (confirmed.foldl Contacts.confirm c.advance) := by
  have := c.counted_advance.foldl h confirmed
  rwa [List.append_nil] at this

/-- What is recorded when a round is over. -/
theorem Current.record?_update (h : c.Current) (confirmed : List (Pair ι)) (p : Pair ι) :
    (c.update confirmed).records[p]? =
      if p ∈ confirmed then some (c.nextRecord p) else none := by
  have hc := h.counted confirmed
  rw [update, settle, Std.ExtTreeMap.getElem?_filter', hc.record?]
  simp only [List.mem_reverse, hc.round_eq]
  split
  case isTrue => simp [nextRecord]
  case isFalse =>
    -- A record that is still the old one bears the old number.
    refine Option.filter_eq_none_iff.2 fun r hr => ?_
    simp [(h p r hr).1]

/-- After a round, the contacts are the pairs that it has confirmed. -/
theorem Current.mem_update (h : c.Current) : p ∈ c.update confirmed ↔ p ∈ confirmed := by
  rw [mem_iff, h.record?_update]
  split <;> simp_all

/-- A round leaves only records that bear its number. -/
theorem Current.update (h : c.Current) (confirmed : List (Pair ι)) :
    (c.update confirmed).Current := by
  intro p r hr
  rw [h.record?_update] at hr
  split at hr
  · obtain rfl := Option.some.inj hr
    exact ⟨(h.counted confirmed).round_eq.symm, Nat.succ_pos _⟩
  · exact absurd hr nofun

/-- The pairs that have ended are those whose records bear another number. -/
theorem mem_ended_settle : p ∈ c.settle.changes.ended ↔
    ∃ r, c.records[p]? = some r ∧ r.round ≠ c.round := by
  simp only [settle, Changes.sort, mem_sort, Std.ExtTreeMap.mem_keys,
    Std.ExtTreeMap.mem_iff_isSome_getElem?, Std.ExtTreeMap.getElem?_filter',
    Option.isSome_iff_exists, Option.filter_eq_some_iff, Bool.not_eq_true', decide_eq_false_iff_not]

/-- The pairs that a round drops are those that it has not seen. -/
theorem Counted.mem_ended (h : c₀.Counted seen c) (hc₀ : c₀.Current) :
    p ∈ c.settle.changes.ended ↔ p ∈ c₀ ∧ p ∉ seen := by
  rw [mem_ended_settle, h.record?, h.round_eq, mem_iff]
  by_cases hseen : p ∈ seen
  · simp only [hseen, if_true, Option.some.injEq, exists_eq_left', nextRecord, ne_eq,
      not_true_eq_false, and_false]
  · simp only [hseen, if_false, not_false_eq_true, and_true]
    refine exists_congr fun r => and_iff_left_of_imp ?_
    intro hr
    rw [(hc₀ p r hr).1]
    exact Nat.ne_add_one _

/-- What a round tells is what has changed. -/
theorem Current.between_update (h : c.Current) (confirmed : List (Pair ι)) :
    (c.update confirmed).changes.Between (· ∈ c) (· ∈ c.update confirmed) := by
  have hc := h.counted confirmed
  simp only [h.mem_update]
  exact {
    mem_started := fun p => mem_sort.trans ((hc.mem_started p).trans (by rw [List.mem_reverse]))
    mem_ongoing := fun p => mem_sort.trans ((hc.mem_ongoing p).trans (by rw [List.mem_reverse]))
    mem_ended := fun p => (hc.mem_ended h).trans (by rw [List.mem_reverse])
    ascending_started := ascending_sort hc.nodup_started
    ascending_ongoing := ascending_sort hc.nodup_ongoing
    ascending_ended := ascending_sort Std.ExtTreeMap.nodup_keys }

/-- A round depends only on which pairs it confirms. -/
theorem Current.update_congr (h : c.Current) {confirmed' : List (Pair ι)}
    (hmem : ∀ p, p ∈ confirmed ↔ p ∈ confirmed') : c.update confirmed = c.update confirmed' := by
  refine Contacts.ext (Std.ExtTreeMap.ext_getElem? fun p => ?_) ?_ ?_
  · simp only [h.record?_update, hmem]
  · have hnew (p : Pair ι) : p ∈ c.update confirmed' ↔ p ∈ c.update confirmed := by
      rw [h.mem_update, h.mem_update, hmem]
    exact (h.between_update confirmed).unique
      ((h.between_update confirmed').congr (fun _ => Iff.rfl) hnew)
  · exact (h.counted confirmed).round_eq.trans (h.counted confirmed').round_eq.symm

/-! ## Numbers of rounds -/

/-- The numbers of rounds that contacts keep are 64-bit words. -/
structure Fits (c : Contacts ι) : Prop where
  /-- The number of the latest round is one. -/
  round_lt : c.round < UInt64.size
  /-- The number that a record bears is one. -/
  record_lt : ∀ (p : Pair ι) r, c.records[p]? = some r → r.round < UInt64.size

/-- No record bears a greater number than the latest round. -/
theorem Current.fits (h : c.Current) (hround : c.round < UInt64.size) : c.Fits :=
  ⟨hround, fun p r hr => (h p r hr).1 ▸ hround⟩

end Contacts

end Broadphase
