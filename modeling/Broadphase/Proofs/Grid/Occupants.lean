import Broadphase.Grid
import Mathlib.Data.List.Nodup

/-!
# Entering and leaving cells

What becomes of the cells when a handle enters or leaves them one by one.

* `Members.leave_perm`: leaving drops one occurrence of a handle, wherever the
  last handle goes;
* `Occupants.members_foldl`: a handle that enters or leaves each of some distinct
  cells changes the members of these cells, and of no others. The cells must be
  distinct, as a handle that enters a cell twice is listed twice;
* `Occupants.Lists`: the cells list each handle where it should be, once, and
  nothing else is kept. When a handle enters cells that do not list it
  (`Lists.enter`), or leaves some cells (`Lists.leave`), just that changes
  (`Lists.foldl`).
-/

namespace Broadphase

variable {ι : Type} [Handle ι]

namespace Members

variable {m : Members ι} {a id : ι}

omit [Handle ι] in
theorem not_mem_empty : a ∉ (empty : Members ι) := List.not_mem_nil

omit [Handle ι] in
theorem mem_enter : a ∈ m.enter id ↔ a ∈ m ∨ a = id := by
  change a ∈ m.ids ++ [id] ↔ a ∈ m.ids ∨ a = id
  rw [List.mem_append, List.mem_singleton]

omit [Handle ι] in
theorem nodup_enter (h : m.ids.Nodup) (hid : id ∉ m) : (m.enter id).ids.Nodup := by
  rw [enter, ← List.concat_eq_append]
  exact h.concat hid

omit [Handle ι] in
/-- Putting the last member of a list in the place of another and dropping the last place drops
    that other member. -/
theorem perm_dropLast_set (l₁ l₂ : List ι) (a : ι) :
    (((l₁ ++ a :: l₂).set l₁.length ((l₁ ++ a :: l₂).getLast?.getD a)).dropLast).Perm
      (l₁ ++ l₂) := by
  rw [List.set_append_right _ _ (Nat.le_refl _), Nat.sub_self, List.set_cons_zero]
  rcases List.eq_nil_or_concat l₂ with rfl | ⟨l, z, rfl⟩
  · rw [List.dropLast_concat, List.append_nil]
  · have hlast : (l₁ ++ a :: (l ++ [z])).getLast? = some z := by
      rw [← List.cons_append, ← List.append_assoc, List.getLast?_concat]
    rw [List.concat_eq_append, hlast, Option.getD_some, ← List.cons_append, ← List.append_assoc,
      List.dropLast_concat]
    exact (List.perm_append_singleton z l).symm.append_left l₁

/-- Leaving drops one occurrence, and otherwise only changes the order. -/
theorem leave_perm (m : Members ι) (id : ι) : (m.leave id).ids.Perm (m.ids.erase id) := by
  rw [leave]
  cases hi : m.ids.idxOf? id with
  | none => rw [List.erase_of_not_mem (List.idxOf?_eq_none_iff.1 hi)]
  | some i =>
    obtain ⟨hi, hid, -⟩ := List.idxOf?_eq_some_iff.1 hi
    have hsplit : m.ids.take i ++ id :: m.ids.drop (i + 1) = m.ids := by
      rw [← hid, List.getElem_cons_drop, List.take_append_drop]
    have hlen : (m.ids.take i).length = i := List.length_take_of_le (Nat.le_of_lt hi)
    have hdrop := perm_dropLast_set (m.ids.take i) (m.ids.drop (i + 1)) id
    rw [hsplit, hlen] at hdrop
    have hmiddle : (m.ids.take i ++ id :: m.ids.drop (i + 1)).Perm
        (id :: (m.ids.take i ++ m.ids.drop (i + 1))) := List.perm_middle
    have herase := hmiddle.erase id
    rw [hsplit, List.erase_cons_head] at herase
    exact hdrop.trans herase.symm

theorem mem_leave (h : m.ids.Nodup) : a ∈ m.leave id ↔ a ≠ id ∧ a ∈ m :=
  (leave_perm m id).mem_iff.trans h.mem_erase_iff

theorem nodup_leave (h : m.ids.Nodup) : (m.leave id).ids.Nodup :=
  (leave_perm m id).nodup_iff.2 (h.erase id)

end Members

namespace Occupants

variable {cells : Occupants ι} {id : ι} {c d : Cell}

theorem members_of_not_mem (h : c ∉ cells) : cells.members c = .empty := by
  rw [members, Std.ExtTreeMap.getElem?_eq_none h]
  rfl

/-- Entering a cell changes the handles of this cell only. -/
theorem members_enter (cells : Occupants ι) (id : ι) (c d : Cell) :
    (enter id cells c).members d =
      if c = d then (cells.members d).enter id else cells.members d := by
  simp only [members, enter, Std.ExtTreeMap.getElem?_alter, Std.LawfulEqCmp.compare_eq_iff_eq]
  split
  case isTrue h => rw [h, Option.getD_some]
  case isFalse => rfl

/-- So does leaving it, also when the cell is dropped. -/
theorem members_leave (cells : Occupants ι) (id : ι) (c d : Cell) :
    (leave id cells c).members d =
      if c = d then (cells.members d).leave id else cells.members d := by
  simp only [members, leave, Std.ExtTreeMap.getElem?_alter, Std.LawfulEqCmp.compare_eq_iff_eq]
  split
  case isTrue h =>
    subst h
    cases cells[c]? with
    | none => rfl
    | some m =>
      simp only [Option.bind_some, Option.getD_some]
      split
      case isTrue hempty =>
        -- The cell was dropped, and one that is not kept has no members.
        rw [Option.getD_none, Members.empty, ← List.isEmpty_iff.1 hempty]
      case isFalse => rfl
  case isFalse => rfl

/-- Editing distinct cells one by one edits the members of each. -/
theorem members_foldl {edit : Occupants ι → Cell → Occupants ι} {f : Members ι → Members ι}
    (hedit : ∀ cells c d,
      (edit cells c).members d = if c = d then f (cells.members d) else cells.members d)
    {cs : List Cell} (hcs : cs.Nodup) (cells : Occupants ι) (d : Cell) :
    (cs.foldl edit cells).members d =
      if d ∈ cs then f (cells.members d) else cells.members d := by
  induction cs generalizing cells with
  | nil => rfl
  | cons c cs ih =>
    obtain ⟨hc, hcs⟩ := List.nodup_cons.1 hcs
    rw [List.foldl_cons, ih hcs, hedit]
    by_cases h : c = d
    · subst h
      rw [if_neg hc, if_pos rfl, if_pos List.mem_cons_self]
    · rw [if_neg h]
      simp only [List.mem_cons, Ne.symm h, false_or]

/-- No cell is kept without handles. -/
def Kept (cells : Occupants ι) : Prop := ∀ c ∈ cells, (cells.members c).ids ≠ []

/-- A cell that is entered has a handle. -/
theorem Kept.enter (h : cells.Kept) (id : ι) (c : Cell) : (enter id cells c).Kept := by
  intro d hd
  rw [members_enter]
  split
  case isTrue => exact List.append_ne_nil_of_right_ne_nil _ (List.cons_ne_nil _ _)
  case isFalse hcd =>
    simp only [Occupants.enter, Std.ExtTreeMap.mem_alter, Std.LawfulEqCmp.compare_eq_iff_eq,
      hcd, if_false] at hd
    exact h d hd

/-- A cell that is left is dropped when it has no handle any more. -/
theorem Kept.leave (h : cells.Kept) (id : ι) (c : Cell) : (leave id cells c).Kept := by
  intro d hd
  rw [members_leave]
  simp only [Occupants.leave, Std.ExtTreeMap.mem_alter, Std.LawfulEqCmp.compare_eq_iff_eq] at hd
  split at hd
  case isTrue hcd =>
    rw [if_pos hcd, ← hcd, members]
    cases hm : cells[c]? with
    | none => simp [hm] at hd
    | some m =>
      intro hempty
      simp [hm, show (m.leave id).ids = [] from hempty] at hd
  case isFalse hcd =>
    rw [if_neg hcd]
    exact h d hd

/-- What each edit keeps, many of them keep. -/
theorem Kept.foldl {edit : Occupants ι → Cell → Occupants ι}
    (hedit : ∀ cells c, Kept cells → Kept (edit cells c)) (h : cells.Kept) (cs : List Cell) :
    (cs.foldl edit cells).Kept := by
  induction cs generalizing cells with
  | nil => exact h
  | cons c cs ih => exact ih (hedit cells c h)

/-- Each handle is listed, once, in the cells where it should be, and no other cell is kept. -/
structure Lists (cells : Occupants ι) (place : ι → Cell → Prop) : Prop where
  mem_members : ∀ c a, a ∈ cells.members c ↔ place a c
  nodup_members : ∀ c, (cells.members c).ids.Nodup
  kept : cells.Kept

variable {place : ι → Cell → Prop} {cs : List Cell}

theorem Lists.congr {place' : ι → Cell → Prop} (h : cells.Lists place)
    (hplace : ∀ a c, place a c ↔ place' a c) : cells.Lists place' :=
  ⟨fun c a => (h.mem_members c a).trans (hplace a c), h.nodup_members, h.kept⟩

theorem lists_empty : (∅ : Occupants ι).Lists fun _ _ => False where
  mem_members c a := by
    rw [members_of_not_mem Std.ExtTreeMap.not_mem_empty]
    exact iff_of_false Members.not_mem_empty id
  nodup_members c := by
    rw [members_of_not_mem Std.ExtTreeMap.not_mem_empty]
    exact List.nodup_nil
  kept _ hc := absurd hc Std.ExtTreeMap.not_mem_empty

/-- Editing distinct cells one by one changes where the handles are, if it does so in each of these
    cells. -/
theorem Lists.foldl {edit : Occupants ι → Cell → Occupants ι} {f : Members ι → Members ι}
    {place' : ι → Cell → Prop} (h : cells.Lists place)
    (hedit : ∀ cells c d,
      (edit cells c).members d = if c = d then f (cells.members d) else cells.members d)
    (hkept : ∀ cells c, Kept cells → Kept (edit cells c)) (hcs : cs.Nodup)
    (hin : ∀ c ∈ cs,
      (f (cells.members c)).ids.Nodup ∧ ∀ a, a ∈ f (cells.members c) ↔ place' a c)
    (hout : ∀ c ∉ cs, ∀ a, place a c ↔ place' a c) : (cs.foldl edit cells).Lists place' where
  mem_members c a := by
    rw [members_foldl hedit hcs]
    by_cases hc : c ∈ cs
    · rw [if_pos hc]
      exact (hin c hc).2 a
    · rw [if_neg hc, h.mem_members]
      exact hout c hc a
  nodup_members c := by
    rw [members_foldl hedit hcs]
    by_cases hc : c ∈ cs
    · rw [if_pos hc]
      exact (hin c hc).1
    · rw [if_neg hc]
      exact h.nodup_members c
  kept := h.kept.foldl hkept cs

/-- A handle enters cells that do not list it. -/
theorem Lists.enter (h : cells.Lists place) (hcs : cs.Nodup) (hnew : ∀ c ∈ cs, ¬ place id c) :
    (cs.foldl (enter id) cells).Lists fun a c => place a c ∨ a = id ∧ c ∈ cs := by
  refine h.foldl (fun cells => members_enter cells id) (fun _ c hk => hk.enter id c) hcs ?_ ?_
  · intro c hc
    have hid : id ∉ cells.members c := fun hid => hnew c hc ((h.mem_members c id).1 hid)
    refine ⟨Members.nodup_enter (h.nodup_members c) hid, fun a => ?_⟩
    rw [Members.mem_enter, h.mem_members]
    simp only [hc, and_true]
  · intro c hc a
    simp only [hc, and_false, or_false]

/-- A handle leaves cells, whether they list it or not. -/
theorem Lists.leave (h : cells.Lists place) (hcs : cs.Nodup) (id : ι) :
    (cs.foldl (leave id) cells).Lists fun a c => place a c ∧ ¬ (a = id ∧ c ∈ cs) := by
  refine h.foldl (fun cells => members_leave cells id) (fun _ c hk => hk.leave id c) hcs ?_ ?_
  · intro c hc
    refine ⟨Members.nodup_leave (h.nodup_members c), fun a => ?_⟩
    rw [Members.mem_leave (h.nodup_members c), h.mem_members]
    simp only [hc, and_true]
    exact and_comm
  · intro c hc a
    simp only [hc, and_false, not_false_eq_true, and_true]

end Occupants

end Broadphase
