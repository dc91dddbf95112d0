import Broadphase.Grid.Scan
import Broadphase.Proofs.Maps
import Mathlib.Data.List.Nodup

/-!
# What a scan proposes

A scan stops and goes on in the middle of three nested loops. Seen from outside,
it goes through one list of meetings, those still to be looked at
(`Scan.remaining`), and proposes the pairs that it has not seen before
(`proposals`).

* `next_spec`: the next candidate is the first of the proposals, and the scan from
  there on proposes the others. The three loops only decide where the next
  meeting is found (`remaining_of_next?`, `remaining_of_advance?`);
* `nth_eq_getElem?`: so the answers to one call after another are the proposals,
  and none ever after;
* `finish_fst`: going on to the end gives all of them;
* `mem_proposals`, `nodup_proposals`: they are the pairs that meet, each once.
-/

namespace Broadphase

variable {ι : Type}

/-! ## Blocks -/

namespace Block

theorem meetingsFrom_tail (as : List ι) : meetingsFrom none as as.tail = meetingsAmong as := by
  induction as with
  | nil => rfl
  | cons a as ih => rw [List.tail_cons, meetingsFrom, meetingsAmong, Option.getD_none, ih]

theorem meetingsFrom_some (as bs : List ι) :
    meetingsFrom (some bs) as bs = meetingsBetween as bs := by
  induction as with
  | nil => rfl
  | cons a as ih =>
    rw [meetingsFrom, Option.getD_some, ih, meetingsBetween, meetingsBetween, List.flatMap_cons]

theorem meetings_among (as : List ι) : (among as).meetings = meetingsAmong as :=
  meetingsFrom_tail as

theorem meetings_between (as bs : List ι) : (between as bs).meetings = meetingsBetween as bs :=
  meetingsFrom_some as bs

/-- When no meeting is next, none is left. -/
theorem meetingsFrom_eq_nil {others : Option (List ι)} {as rhs : List ι}
    (h : nextFrom? others as rhs = none) : meetingsFrom others as rhs = [] := by
  induction as generalizing rhs with
  | nil => rfl
  | cons a as ih =>
    cases rhs with
    | nil => exact ih h
    | cons b rhs => exact absurd h nofun

theorem meetings_eq_nil {b : Block ι} (h : b.next? = none) : b.meetings = [] :=
  meetingsFrom_eq_nil h

end Block

/-! ## Pairs that meet -/

variable [Handle ι]

namespace Pair

theorem of?_lo_hi (p : Pair ι) : of? p.lo p.hi = some p := by
  rw [of?]
  split
  case h_1 => rfl
  case h_2 h => exact absurd (p.lo_lt_hi.symm.trans h) nofun
  case h_3 h => exact absurd (p.lo_lt_hi.symm.trans h) nofun

theorem of?_hi_lo (p : Pair ι) : of? p.hi p.lo = some p := by
  have hgt : compare p.hi p.lo = .gt := Std.OrientedCmp.gt_of_lt p.lo_lt_hi
  rw [of?]
  split
  case h_1 h => exact absurd (hgt.symm.trans h) nofun
  case h_2 => rfl
  case h_3 h => exact absurd (hgt.symm.trans h) nofun

/-- Two handles make the pair that holds them, whichever comes first. -/
theorem of?_eq_some_iff {a b : ι} {p : Pair ι} :
    of? a b = some p ↔ a = p.lo ∧ b = p.hi ∨ a = p.hi ∧ b = p.lo := by
  constructor
  · intro h
    rw [of?] at h
    split at h
    case h_1 => exact .inl (Option.some.inj h ▸ ⟨rfl, rfl⟩)
    case h_2 => exact .inr (Option.some.inj h ▸ ⟨rfl, rfl⟩)
    case h_3 => exact absurd h nofun
  · rintro (⟨rfl, rfl⟩ | ⟨rfl, rfl⟩)
    · exact of?_lo_hi p
    · exact of?_hi_lo p

theorem isSome_of? {a b : ι} (h : a ≠ b) : (of? a b).isSome := by
  rw [of?]
  split
  case h_1 => rfl
  case h_2 => rfl
  case h_3 heq => exact absurd (Std.LawfulEqOrd.eq_of_compare heq) h

end Pair

/-- The pairs that are proposed when the handles meet in turn: those that have not been seen before. -/
def proposals : Std.ExtTreeSet (Pair ι) → List (ι × ι) → List (Pair ι)
  | _, [] => []
  | seen, (a, b) :: rest =>
    match Pair.of? a b with
    | some p => if p ∈ seen then proposals seen rest else p :: proposals (seen.insert p) rest
    | none => proposals seen rest

variable {seen : Std.ExtTreeSet (Pair ι)} {ms : List (ι × ι)} {p : Pair ι}

/-- They are the pairs that meet, without those seen before. -/
theorem mem_proposals :
    p ∈ proposals seen ms ↔ p ∉ seen ∧ ∃ m ∈ ms, Pair.of? m.1 m.2 = some p := by
  fun_induction proposals seen ms with
  | case1 => simp
  | case2 seen a b rest q hq hseen ih =>
    -- A pair that was seen before is passed over.
    simp only [ih, List.mem_cons, exists_eq_or_imp, hq, Option.some.injEq]
    refine and_congr_right fun hp => (or_iff_right ?_).symm
    rintro rfl
    exact hp hseen
  | case3 seen a b rest q hq hseen ih =>
    simp only [List.mem_cons, ih, mem_insert_iff, exists_eq_or_imp, hq, Option.some.injEq, not_or]
    by_cases hp : q = p
    · subst hp
      simp only [true_or, hseen, not_false_eq_true, true_and]
    · simp only [hp, Ne.symm hp, not_false_eq_true, true_and, false_or]
  | case4 seen a b rest hq ih =>
    simp only [ih, List.mem_cons, exists_eq_or_imp, hq, reduceCtorEq, false_or]

/-- No pair is proposed twice. -/
theorem nodup_proposals (seen : Std.ExtTreeSet (Pair ι)) (ms : List (ι × ι)) :
    (proposals seen ms).Nodup := by
  fun_induction proposals seen ms with
  | case1 => exact List.nodup_nil
  | case2 _ _ _ _ _ _ _ ih => exact ih
  | case3 seen a b rest q hq hseen ih =>
    exact List.nodup_cons.2 ⟨fun hmem => (mem_proposals.1 hmem).1 Std.ExtTreeSet.mem_insert_self, ih⟩
  | case4 _ _ _ _ _ ih => exact ih

theorem length_proposals_le (seen : Std.ExtTreeSet (Pair ι)) (ms : List (ι × ι)) :
    (proposals seen ms).length ≤ ms.length := by
  fun_induction proposals seen ms with
  | case1 => exact Nat.le_refl 0
  | case2 _ _ _ _ _ _ _ ih => exact Nat.le_succ_of_le ih
  | case3 _ _ _ _ _ _ _ ih => exact Nat.succ_le_succ ih
  | case4 _ _ _ _ _ ih => exact Nat.le_succ_of_le ih

/-! ## Scans -/

namespace Scan

variable {s s' : Scan ι}

/-- The candidates that a scan has yet to propose. -/
def proposals (s : Scan ι) : List (Pair ι) := Broadphase.proposals s.scanner.seen s.remaining

/-- A meeting that is found is the first of those still to be looked at. -/
theorem remaining_of_next? {m : ι × ι} {block : Block ι} (h : s.block.next? = some (m, block)) :
    s.remaining = m :: { s with block }.remaining := by
  simp only [remaining, Block.meetings_of_next? h, List.cons_append]

/-- Going on to the next block passes over no meeting. -/
theorem remaining_of_advance? (hblock : s.block.next? = none) (h : s.advance? = some s') :
    s.remaining = s'.remaining ∧ s'.scanner = s.scanner := by
  rw [advance?] at h
  split at h
  case h_1 c around _ hc =>
    -- The same cell, with the next one around it.
    obtain rfl := Option.some.inj h
    simp only [remaining, Block.meetings_eq_nil hblock, hc, Block.meetings_between,
      List.flatMap_cons, List.nil_append, List.append_assoc, and_self]
  case h_2 c ahead haround hc =>
    -- The next cell, with itself.
    obtain rfl := Option.some.inj h
    simp only [remaining, Block.meetings_eq_nil hblock, haround, hc, Block.meetings_among,
      List.flatMap_cons, List.flatMap_nil, List.nil_append, meetingsAt, and_self]
  case h_3 => cases h

theorem remaining_eq_nil (hblock : s.block.next? = none) (h : s.advance? = none) :
    s.remaining = [] := by
  rw [advance?] at h
  split at h
  case h_1 => cases h
  case h_2 => cases h
  case h_3 haround hahead =>
    simp only [remaining, Block.meetings_eq_nil hblock, haround, hahead, List.flatMap_nil,
      List.append_nil]

/-- The next candidate is the first of those yet to be proposed, and the others follow. -/
theorem next_spec (s : Scan ι) :
    s.next.1 = s.proposals.head? ∧ s.next.2.proposals = s.proposals.tail := by
  fun_induction Scan.next s with
  | case1 s a b block hm p hp hseen ih =>
    -- The handles that meet were proposed before.
    have : s.proposals = { s with block }.proposals := by
      rw [proposals, proposals, remaining_of_next? hm, Broadphase.proposals, hp]
      exact if_pos hseen
    rw [this]
    exact ih
  | case2 s a b block hm p hp hseen =>
    have : s.proposals =
        p :: { s with block, scanner := ⟨s.scanner.seen.insert p⟩ }.proposals := by
      rw [proposals, proposals, remaining_of_next? hm, Broadphase.proposals, hp]
      exact if_neg hseen
    rw [this]
    exact ⟨rfl, rfl⟩
  | case3 s a b block hm hp ih =>
    -- A handle that occupies both cells meets itself.
    have : s.proposals = { s with block }.proposals := by
      rw [proposals, proposals, remaining_of_next? hm, Broadphase.proposals, hp]
    rw [this]
    exact ih
  | case4 s hm s' hs' ih =>
    obtain ⟨hrem, hscanner⟩ := remaining_of_advance? hm hs'
    have : s.proposals = s'.proposals := by rw [proposals, proposals, hrem, hscanner]
    rw [this]
    exact ih
  | case5 s hm hs' =>
    have : s.proposals = [] := by rw [proposals, remaining_eq_nil hm hs', Broadphase.proposals]
    rw [this]
    exact ⟨rfl, rfl⟩

/-- The answer to the call of `next` after `n` others. -/
def nth (s : Scan ι) : Nat → Option (Pair ι)
  | 0 => s.next.1
  | n + 1 => s.next.2.nth n

/-- One call after another, a scan answers with what it proposes, and then with nothing. -/
theorem nth_eq_getElem? (s : Scan ι) (n : Nat) : s.nth n = s.proposals[n]? := by
  induction n generalizing s with
  | zero => rw [nth, (next_spec s).1, List.head?_eq_getElem?]
  | succ n ih => rw [nth, ih, (next_spec s).2, List.getElem?_tail]

/-- Going on for a while gives the first proposals. -/
theorem take_fst (n : Nat) (s : Scan ι) : (s.take n).1 = s.proposals.take n := by
  induction n generalizing s with
  | zero => rw [take, List.take_zero]
  | succ n ih =>
    obtain ⟨hfst, hsnd⟩ := next_spec s
    rw [take]
    split
    case h_1 s' hnext =>
      rw [hnext] at hfst
      rw [List.head?_eq_none_iff.1 hfst.symm, List.take_nil]
    case h_2 p s' hnext =>
      rw [hnext] at hfst hsnd
      obtain ⟨ps, hps⟩ := List.head?_eq_some_iff.1 hfst.symm
      rw [hps, List.tail_cons] at hsnd
      rw [hps, List.take_succ_cons, ← hsnd, ← ih]

/-- There are enough calls to come to the end. -/
theorem finish_fst (s : Scan ι) : s.finish.1 = s.proposals := by
  rw [finish, take_fst]
  exact List.take_of_length_le (Nat.le_succ_of_le (length_proposals_le _ _))

end Scan

end Broadphase
