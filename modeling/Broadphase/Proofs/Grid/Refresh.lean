import Broadphase.Grid.Refresh
import Broadphase.Proofs.Grid.Consistency

/-!
# Refreshing

A refreshed grid holds the objects of the updates and no others, each with the
last shape that the updates give for it (`Holds.refresh`). The only thing that
can go wrong is a shape that cannot be placed: an object is inserted only where
it is missing, and relocated or removed only where it is there.
-/

namespace Broadphase

variable {ι S : Type} [Handle ι] [Scalar S]

/-! ## Updates -/

section Updates

variable {u : Update ι S} {updates : List (Update ι S)} {id : ι}

/-- The last shape that some updates give for a handle. -/
def lastShape? (updates : List (Update ι S)) (id : ι) : Option (Shape S) :=
  updates.reverse.lookup id

/-- Every shape in a list of updates can be placed among cells of the given size. -/
def Placeable (cellSize : S) (updates : List (Update ι S)) : Prop :=
  ∀ u ∈ updates, (u.2.region? cellSize).isSome

instance (cellSize : S) (updates : List (Update ι S)) : Decidable (Placeable cellSize updates) :=
  inferInstanceAs (Decidable (∀ u ∈ updates, _))

omit [Scalar S] in
/-- An update counts if no later one is for the same handle. -/
theorem lastShape?_cons : lastShape? (u :: updates) id =
    (lastShape? updates id).or (if id = u.1 then some u.2 else none) := by
  obtain ⟨a, shape⟩ := u
  rw [lastShape?, List.reverse_cons, List.lookup_append]
  by_cases h : id = a
  · subst h
    rw [List.lookup_cons_self, if_pos rfl, lastShape?]
  · rw [List.lookup_cons, beq_false_of_ne h, if_neg h, lastShape?]
    rfl

omit [Scalar S] in
theorem isSome_lastShape? : (lastShape? updates id).isSome ↔ id ∈ updates.map (·.1) := by
  simp [lastShape?, List.mem_map]

end Updates

namespace Grid

variable {g g' : Grid ι S} {cellSize : S} {shapes : ι → Option (Shape S)} {id : ι}
  {shape : Shape S} {u : Update ι S} {updates : List (Update ι S)}

/-- A consistent grid with cells of the given size and objects of the given shapes. -/
structure Holds (cellSize : S) (shapes : ι → Option (Shape S)) (g : Grid ι S) : Prop where
  /-- Its cells and objects are inverse to each other. -/
  consistent : g.Consistent
  /-- Its cells have this size. -/
  cellSize_eq : g.cellSize = cellSize
  /-- Its objects have these shapes. -/
  shape?_eq : ∀ id, g.shape? id = shapes id

theorem Holds.congr {shapes' : ι → Option (Shape S)} (h : g.Holds cellSize shapes)
    (heq : ∀ id, shapes id = shapes' id) : g.Holds cellSize shapes' :=
  ⟨h.consistent, h.cellSize_eq, fun id => (h.shape?_eq id).trans (heq id)⟩

theorem holds_empty (cellSize : S) : (empty cellSize : Grid ι S).Holds cellSize fun _ => none :=
  ⟨consistent_empty cellSize, rfl, fun _ => by simp [shape?, empty]⟩

omit [Scalar S] in
theorem isSome_shape? : (g.shape? id).isSome ↔ id ∈ g := by
  rw [shape?, Option.isSome_map]
  exact Std.ExtTreeMap.mem_iff_isSome_getElem?.symm

/-- The cells of an object are those for its shape. -/
theorem Consistent.region?_eq (h : g.Consistent) :
    g.region? id = (g.shape? id).bind fun shape => shape.region? g.cellSize := by
  rw [region?, shape?]
  cases ho : g.objects[id]? with
  | none => rfl
  | some o => exact (h.region_eq id o ho).symm

/-! ## Single changes -/

omit [Scalar S] in
theorem shape?_insert {o : Occupancy S} {cells : Occupants ι} {w : S} (a : ι) :
    (⟨w, cells, g.objects.insert id o⟩ : Grid ι S).shape? a =
      if a = id then some o.shape else g.shape? a := by
  simp only [shape?, getElem?_insert_ite]
  split <;> rfl

omit [Scalar S] in
theorem shape?_erase {cells : Occupants ι} {w : S} (a : ι) :
    (⟨w, cells, g.objects.erase id⟩ : Grid ι S).shape? a = if a = id then none else g.shape? a := by
  simp only [shape?, getElem?_erase_ite]
  split <;> rfl

/-- An update is applied, to an object that is there or to one that is not. -/
theorem Holds.update (h : g.Holds cellSize shapes) (hu : (u.2.region? cellSize).isSome) :
    ∃ g', (·.2) <$> g.perform (g.actionFor u) = .ok g' ∧
      g'.Holds cellSize fun a => if a = u.1 then some u.2 else shapes a := by
  obtain ⟨id, shape⟩ := u
  obtain ⟨r, hr⟩ := Option.isSome_iff_exists.1 hu
  rw [← h.cellSize_eq] at hr
  simp only [actionFor]
  split
  case isTrue hid =>
    obtain ⟨o, ho⟩ := Option.isSome_iff_exists.1 (Std.ExtTreeMap.mem_iff_isSome_getElem?.1 hid)
    have hg' := relocate_eq_ok_iff.2 ⟨o, r, ho, hr, rfl, rfl⟩
    refine ⟨_, by rw [perform, hg']; rfl, h.consistent.relocate hg', h.cellSize_eq, fun a => ?_⟩
    rw [shape?_insert, h.shape?_eq]
  case isFalse hid =>
    have hg' := insert_eq_ok_iff.2 ⟨hid, r, hr, rfl⟩
    refine ⟨_, by rw [perform, hg']; rfl, h.consistent.insert hg', h.cellSize_eq, fun a => ?_⟩
    rw [shape?_insert, h.shape?_eq]

/-- An object that is there is removed. -/
theorem Holds.remove (h : g.Holds cellSize shapes) (hid : (shapes id).isSome) :
    ∃ g', (·.2) <$> g.remove id = .ok g' ∧
      g'.Holds cellSize fun a => if a = id then none else shapes a := by
  rw [← h.shape?_eq, isSome_shape?] at hid
  obtain ⟨o, ho⟩ := Option.isSome_iff_exists.1 (Std.ExtTreeMap.mem_iff_isSome_getElem?.1 hid)
  have hg' := remove_eq_ok_iff.2 ⟨o, ho, rfl, rfl⟩
  refine ⟨_, by rw [hg']; rfl, h.consistent.remove hg', h.cellSize_eq, fun a => ?_⟩
  rw [shape?_erase, h.shape?_eq]

/-! ## Many changes -/

/-- The updates are applied in turn: each shape of the list overrides what was there before. -/
theorem Holds.placeAll (h : g.Holds cellSize shapes) (hu : Placeable cellSize updates) :
    ∃ g', g.placeAll updates = .ok g' ∧
      g'.Holds cellSize fun a => (lastShape? updates a).or (shapes a) := by
  induction updates generalizing g shapes with
  | nil => exact ⟨g, rfl, h⟩
  | cons u updates ih =>
    obtain ⟨g₁, hg₁, h₁⟩ := h.update (hu u List.mem_cons_self)
    obtain ⟨g₂, hg₂, h₂⟩ := ih h₁ fun u hmem => hu u (List.mem_cons_of_mem _ hmem)
    refine ⟨g₂, ?_, h₂.congr fun a => ?_⟩
    · rw [Grid.placeAll, List.foldlM_cons]
      exact bind_eq_ok_iff.2 ⟨g₁, hg₁, hg₂⟩
    · -- The rest of the list overrides the first update, which overrides what was there.
      rw [lastShape?_cons, Option.or_assoc]
      congr 1
      split <;> rfl

/-- Objects that are there are removed in turn. -/
theorem Holds.removeAll {ids : List ι} (h : g.Holds cellSize shapes) (hnodup : ids.Nodup)
    (hids : ∀ id ∈ ids, (shapes id).isSome) :
    ∃ g', g.removeAll ids = .ok g' ∧
      g'.Holds cellSize fun a => if a ∈ ids then none else shapes a := by
  induction ids generalizing g shapes with
  | nil => exact ⟨g, rfl, h.congr fun _ => (if_neg List.not_mem_nil).symm⟩
  | cons id ids ih =>
    obtain ⟨hid, hnodup⟩ := List.nodup_cons.1 hnodup
    obtain ⟨g₁, hg₁, h₁⟩ := h.remove (hids id List.mem_cons_self)
    have hrest : ∀ a ∈ ids, (if a = id then none else shapes a).isSome := by
      intro a ha
      -- No handle is in the list twice, so the others are still there.
      rw [if_neg (ne_of_mem_of_not_mem ha hid)]
      exact hids a (List.mem_cons_of_mem _ ha)
    obtain ⟨g₂, hg₂, h₂⟩ := ih h₁ hnodup hrest
    refine ⟨g₂, ?_, h₂.congr fun a => ?_⟩
    · rw [Grid.removeAll, List.foldlM_cons]
      exact bind_eq_ok_iff.2 ⟨g₁, hg₁, hg₂⟩
    · simp only [List.mem_cons]
      split <;> simp_all

omit [Scalar S] in
/-- What has departed is in the grid and not in the list. -/
theorem mem_departed : id ∈ g.departed updates ↔ id ∈ g ∧ id ∉ updates.map (·.1) := by
  have hlive : id ∈ Std.ExtTreeSet.ofList (updates.map (·.1)) ↔ id ∈ updates.map (·.1) :=
    Std.ExtTreeSet.mem_toList.symm.trans mem_inOrder
  rw [departed, List.mem_filter, decide_eq_true_iff, hlive, handles, Std.ExtTreeMap.mem_keys]
  exact Iff.rfl

omit [Scalar S] in
theorem nodup_departed : (g.departed updates).Nodup := Std.ExtTreeMap.nodup_keys.filter _

/-- No update is to blame exactly if all shapes can be placed. -/
theorem unplaceable?_eq_none_iff :
    g.unplaceable? updates = none ↔ Placeable g.cellSize updates := by
  simp [unplaceable?, Placeable, regionFor?, Option.isSome_iff_ne_none]

/-- When the updates have been applied, what has departed is removed, in any order. -/
theorem Holds.removeDeparted {ids : List ι}
    (h : g.Holds cellSize fun a => (lastShape? updates a).or (shapes a))
    (hids : ids.Perm (g.departed updates)) :
    ∃ g', g.removeAll ids = .ok g' ∧ g'.Holds cellSize (lastShape? updates) := by
  have hmem (a : ι) : a ∈ ids ↔ a ∈ g ∧ a ∉ updates.map (·.1) := hids.mem_iff.trans mem_departed
  have hthere : ∀ id ∈ ids, ((lastShape? updates id).or (shapes id)).isSome := by
    intro id hid
    rw [← h.shape?_eq, isSome_shape?]
    exact ((hmem id).1 hid).1
  obtain ⟨g', hg', h'⟩ := h.removeAll (hids.nodup_iff.2 nodup_departed) hthere
  refine ⟨g', hg', h'.congr fun a => ?_⟩
  -- What has departed has not been updated, and what is left has.
  by_cases ha : a ∈ updates.map (·.1)
  · rw [if_neg fun hdep => ((hmem a).1 hdep).2 ha]
    exact Option.or_of_isSome (isSome_lastShape?.2 ha)
  · have hlast : lastShape? updates a = none := by
      rw [← Option.not_isSome_iff_eq_none, isSome_lastShape?]
      exact ha
    rw [hlast]
    split
    case isTrue => rfl
    case isFalse hdep =>
      rw [← hlast, ← h.shape?_eq, hlast, ← Option.not_isSome_iff_eq_none, isSome_shape?]
      exact fun hg => hdep ((hmem a).2 ⟨hg, ha⟩)

/-- A refreshed grid holds the last shapes of the updates. -/
theorem Holds.refresh (h : g.Holds cellSize shapes) (hu : Placeable cellSize updates) :
    ∃ g', g.refresh updates = .ok g' ∧ g'.Holds cellSize (lastShape? updates) := by
  obtain ⟨g₁, hg₁, h₁⟩ := h.placeAll hu
  obtain ⟨g₂, hg₂, h₂⟩ := h₁.removeDeparted (.refl _)
  refine ⟨g₂, ?_, h₂⟩
  rw [Grid.refresh, unplaceable?_eq_none_iff.2 (h.cellSize_eq ▸ hu)]
  exact bind_eq_ok_iff.2 ⟨g₁, hg₁, hg₂⟩

end Grid

end Broadphase
