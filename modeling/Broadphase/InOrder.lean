import Std.Data.ExtTreeSet

/-!
# Lists in order

Answers list handles and pairs in order, each once. There are two ways to bring
a list into this form:

* `sort` only moves its members (`sort_perm`), so a member that occurs twice
  still does; if none does, they are strictly ascending (`ascending_sort`);
* `inOrder` also drops repetitions. It has the same members (`mem_inOrder`), and
  they are strictly ascending (`ascending_inOrder`).

A list that is in order is determined by its members (`Ascending.ext`).
-/

namespace Broadphase

variable {α : Type} [Ord α]

/-- A list is in order and holds each of its members once. -/
abbrev Ascending (xs : List α) : Prop := xs.Pairwise fun a b => compare a b = .lt

/-- The members of a list in order, each as often as it occurs. -/
def sort (xs : List α) : List α := xs.mergeSort fun a b => (compare a b).isLE

theorem sort_perm (xs : List α) : (sort xs).Perm xs := List.mergeSort_perm xs _

@[simp] theorem mem_sort {xs : List α} {x : α} : x ∈ sort xs ↔ x ∈ xs := (sort_perm xs).mem_iff

variable [Std.TransOrd α]

/-- The members of a list, in order and each once. -/
def inOrder (xs : List α) : List α := (Std.ExtTreeSet.ofList xs).toList

theorem ascending_inOrder (xs : List α) : Ascending (inOrder xs) :=
  Std.ExtTreeSet.ordered_toList

variable [Std.LawfulEqOrd α]

omit [Std.LawfulEqOrd α] in
/-- A list in order holds no member twice. -/
theorem Ascending.nodup {xs : List α} (h : Ascending xs) : xs.Nodup := by
  refine h.imp fun {a b} hlt hab => ?_
  rw [hab, Std.ReflOrd.compare_self] at hlt
  exact absurd hlt nofun

omit [Std.LawfulEqOrd α] in
/-- A list in order is determined by its members. -/
theorem Ascending.ext {xs ys : List α} (hx : Ascending xs) (hy : Ascending ys)
    (h : ∀ x, x ∈ xs ↔ x ∈ ys) : xs = ys := by
  refine List.Perm.eq_of_pairwise (fun a b _ _ hab hba => ?_) hx hy
    ((List.perm_ext_iff_of_nodup hx.nodup hy.nodup).2 h)
  exact absurd (hab.symm.trans (Std.OrientedCmp.gt_of_lt hba)) nofun

omit [Std.LawfulEqOrd α] in
/-- Sorting puts the members of a list in order. -/
theorem pairwise_sort (xs : List α) : (sort xs).Pairwise fun a b => (compare a b).isLE := by
  have htrans (a b c : α) (hab : (compare a b).isLE) (hbc : (compare b c).isLE) :
      (compare a c).isLE := Std.TransOrd.isLE_trans hab hbc
  have htotal (a b : α) : (compare a b).isLE || (compare b a).isLE := by
    rw [Std.OrientedOrd.eq_swap (a := b)]
    cases compare a b <;> rfl
  exact List.pairwise_mergeSort htrans htotal xs

omit [Std.TransOrd α] in
/-- A list that is in order and holds none of its members twice is strictly ascending. -/
theorem ascending_of_pairwise {xs : List α} (hle : xs.Pairwise fun a b => (compare a b).isLE)
    (hnodup : xs.Nodup) : Ascending xs := by
  refine (hle.and hnodup).imp fun {a b} ⟨hab, hne⟩ => ?_
  cases h : compare a b with
  | lt => rfl
  | eq => exact absurd (Std.LawfulEqOrd.eq_of_compare h) hne
  | gt => simp [h] at hab

theorem ascending_sort {xs : List α} (h : xs.Nodup) : Ascending (sort xs) :=
  ascending_of_pairwise (pairwise_sort xs) ((sort_perm xs).nodup_iff.2 h)

theorem mem_inOrder {xs : List α} {x : α} : x ∈ inOrder xs ↔ x ∈ xs := by
  let _ : DecidableEq α := fun a b =>
    decidable_of_iff (compare a b = .eq) Std.LawfulEqCmp.compare_eq_iff_eq
  rw [inOrder, Std.ExtTreeSet.mem_toList, Std.ExtTreeSet.mem_ofList, List.contains_iff_mem]

end Broadphase
