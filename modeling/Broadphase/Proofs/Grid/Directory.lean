import Broadphase.Proofs.Grid.Alike
import Broadphase.Proofs.Grid.InPlace

/-!
# Grids as plain maps

Without its cells, a grid is a map from handles to shapes: a *directory*. What a
directory answers to an action, and which one the action leads to, is said in a
few lines (`Directory.perform`). A grid that is changed in place answers the
same, whatever it has been asked before, and it cannot be told from one into which
the objects of the directory have just been inserted.

* `Holds.inStep`, `Holds.run`: one action, whichever it is, and many;
* `Holds.alike_insertions`: inserting the objects one by one, in any order;
* `Holds.alike_relocate`: removing an object and inserting it again;
* `refines_directory`: all of it, for any run of a new grid.
-/

namespace Broadphase

variable {ι S : Type} [Handle ι] [Scalar S]

/-- The shapes of some objects, by their handles. -/
abbrev Directory (ι S : Type) [Handle ι] := Std.ExtTreeMap ι (Shape S)

namespace Directory

/-! ## Actions on a directory -/

/-- Carry out an action, for cells of the given size. -/
def perform (cellSize : S) (d : Directory ι S) :
    Action ι S → Except (GridError ι) (Reply S × Directory ι S)
  | .insert id shape =>
    if id ∈ d then throw (.duplicateHandle id)
    else if (shape.region? cellSize).isNone then throw (.unplaceableShape id)
    else return (.done, d.insert id shape)
  | .remove id => match d[id]? with
    | none => throw (.unknownHandle id)
    | some last => return (.removed last, d.erase id)
  | .relocate id shape => match d[id]? with
    | none => throw (.unknownHandle id)
    | some last =>
      if (shape.region? cellSize).isNone then throw (.unplaceableShape id)
      else return (.relocated (last.region? cellSize ≠ shape.region? cellSize), d.insert id shape)
  | .clear => return (.done, ∅)

/-- The directory after an action. One that fails leaves it as it was. -/
def after (cellSize : S) (d : Directory ι S) (a : Action ι S) : Directory ι S :=
  match d.perform cellSize a with
  | .ok (_, d') => d'
  | .error _ => d

/-- The directory after some actions in turn, whether they fail or not. -/
def run (cellSize : S) (d : Directory ι S) (actions : List (Action ι S)) : Directory ι S :=
  actions.foldl (after cellSize) d

/-- The answers to some actions in turn. -/
def answers (cellSize : S) (d : Directory ι S) :
    List (Action ι S) → List (Except (GridError ι) (Reply S))
  | [] => []
  | a :: actions =>
    ((·.1) <$> d.perform cellSize a) :: (d.after cellSize a).answers cellSize actions

variable {cellSize : S} {d d' : Directory ι S} {id a : ι} {shape : Shape S}

/-! ## Insertions -/

/-- The actions that insert some objects one by one. -/
def insertions (order : List (ι × Shape S)) : List (Action ι S) :=
  order.map fun (id, shape) => .insert id shape

theorem perform_insert (hid : id ∉ d) (hshape : (shape.region? cellSize).isSome) :
    d.perform cellSize (.insert id shape) = .ok (.done, d.insert id shape) := by
  have hnone := mt Option.isNone_iff_eq_none.1 (Option.isSome_iff_ne_none.1 hshape)
  rw [perform, if_neg hid, if_neg hnone]
  rfl

theorem perform_remove (cellSize : S) (hid : d[id]? = some shape) :
    d.perform cellSize (.remove id) = .ok (.removed shape, d.erase id) := by
  rw [perform, hid]
  rfl

theorem perform_relocate {reply : Reply S}
    (h : d.perform cellSize (.relocate id shape) = .ok (reply, d')) :
    ∃ last, d[id]? = some last ∧ (shape.region? cellSize).isSome ∧ d' = d.insert id shape := by
  rw [perform] at h
  cases hid : d[id]? with
  | none =>
    rw [hid] at h
    exact absurd h throw_ne_ok
  | some last =>
    rw [hid] at h
    cases hr : shape.region? cellSize with
    | none =>
      rw [hr] at h
      exact absurd h throw_ne_ok
    | some r =>
      rw [hr] at h
      exact ⟨last, rfl, rfl, (Prod.mk.inj (Except.ok.inj h)).2.symm⟩

/-- New objects whose shapes can be placed are inserted without fail, and nothing else changes. -/
theorem run_insertions {order : List (ι × Shape S)} (hnodup : (order.map (·.1)).Nodup)
    (hnew : ∀ u ∈ order, u.1 ∉ d) (hu : Placeable cellSize order) :
    d.answers cellSize (insertions order) = order.map (fun _ => .ok .done) ∧
      ∀ a shape, (d.run cellSize (insertions order))[a]? = some shape ↔
        (a, shape) ∈ order ∨ d[a]? = some shape := by
  induction order generalizing d with
  | nil => exact ⟨rfl, fun a shape => (or_iff_right List.not_mem_nil).symm⟩
  | cons u order ih =>
    obtain ⟨id, last⟩ := u
    obtain ⟨hid, hnodup⟩ := List.nodup_cons.1 hnodup
    have hfirst : id ∉ d := hnew _ List.mem_cons_self
    have hinsert := perform_insert hfirst (hu _ List.mem_cons_self)
    have hafter : d.after cellSize (.insert id last) = d.insert id last := by rw [after, hinsert]
    -- Those that follow are still new.
    have hrest : ∀ u ∈ order, u.1 ∉ d.insert id last := by
      intro u hu hmem
      rcases Std.ExtTreeMap.mem_insert.1 hmem with heq | hd
      · exact hid (List.mem_map.2 ⟨u, hu, (Std.LawfulEqOrd.eq_of_compare heq).symm⟩)
      · exact hnew u (List.mem_cons_of_mem _ hu) hd
    obtain ⟨hanswers, hrun⟩ := ih hnodup hrest fun u hmem => hu u (List.mem_cons_of_mem _ hmem)
    constructor
    · rw [insertions, List.map_cons, answers, hinsert, hafter, List.map_cons]
      exact congrArg _ hanswers
    · intro a shape
      rw [insertions, List.map_cons, run, List.foldl_cons, hafter]
      refine (hrun a shape).trans ?_
      rw [getElem?_insert_ite, List.mem_cons, Prod.mk.injEq]
      by_cases ha : a = id
      · subst ha
        rw [if_pos rfl, Std.ExtTreeMap.getElem?_eq_none hfirst]
        grind
      · rw [if_neg ha]
        tauto

end Directory

namespace Grid

variable {g g' : Grid ι S} {cellSize : S} {d : Directory ι S} {id : ι} {shape : Shape S}

/-! ## Actions on a grid -/

/-- What a grid and a directory make of one action: the same, in step with each other. -/
inductive InStep (cellSize : S) : Except (GridError ι) (Reply S × Grid ι S) →
    Except (GridError ι) (Reply S × Directory ι S) → Prop
  /-- Both succeed, with the same answer. -/
  | ok {reply : Reply S} {g : Grid ι S} {d : Directory ι S} (h : g.Holds cellSize (d[·]?)) :
    InStep cellSize (.ok (reply, g)) (.ok (reply, d))
  /-- Both fail, for the same reason. -/
  | error {e : GridError ι} : InStep cellSize (.error e) (.error e)

theorem holds_directory_empty (cellSize : S) :
    (empty cellSize : Grid ι S).Holds cellSize ((∅ : Directory ι S)[·]?) :=
  (holds_empty cellSize).congr fun _ => Std.ExtTreeMap.getElem?_empty.symm

theorem Holds.mem_iff (h : g.Holds cellSize (d[·]?)) : id ∈ g ↔ id ∈ d := by
  rw [← isSome_shape?, h.shape?_eq, Std.ExtTreeMap.mem_iff_isSome_getElem?]

theorem Holds.getElem?_eq_none (h : g.Holds cellSize (d[·]?)) (hid : d[id]? = none) :
    g.objects[id]? = none :=
  Option.map_eq_none_iff.1 ((h.shape?_eq id).trans hid)

theorem Holds.exists_region (h : g.Holds cellSize (d[·]?)) {last : Shape S}
    (hid : d[id]? = some last) :
    ∃ r, g.objects[id]? = some ⟨last, r⟩ ∧ last.region? cellSize = some r := by
  obtain ⟨o, ho, rfl⟩ := Option.map_eq_some_iff.1 ((h.shape?_eq id).trans hid)
  exact ⟨o.region, ho, h.cellSize_eq ▸ h.consistent.region_eq id o ho⟩

/-- Inserting fails for both or for neither, and answers the same. -/
theorem Holds.insert_inStep (h : g.Holds cellSize (d[·]?)) (id : ι) (shape : Shape S) :
    InStep cellSize (g.perform (.insert id shape)) (d.perform cellSize (.insert id shape)) := by
  rw [Grid.perform, Directory.perform]
  by_cases hid : id ∈ d
  · rw [Grid.insert, if_pos (h.mem_iff.2 hid), if_pos hid]
    exact .error
  · cases hr : shape.region? cellSize with
    | none =>
      rw [Grid.insert, if_neg (h.mem_iff.not.2 hid), regionFor?, h.cellSize_eq, hr, if_neg hid]
      exact .error
    | some r =>
      have hg' := insert_eq_ok_iff.2 ⟨h.mem_iff.not.2 hid, r, h.cellSize_eq ▸ hr, rfl⟩
      rw [hg', if_neg hid]
      refine .ok ⟨h.consistent.insert hg', h.cellSize_eq, fun a => ?_⟩
      rw [shape?_insert, h.shape?_eq, getElem?_insert_ite]

/-- So does removing. -/
theorem Holds.remove_inStep (h : g.Holds cellSize (d[·]?)) (id : ι) :
    InStep cellSize (g.perform (.remove id)) (d.perform cellSize (.remove id)) := by
  rw [Grid.perform, Directory.perform]
  cases hid : d[id]? with
  | none =>
    rw [Grid.remove, h.getElem?_eq_none hid]
    exact .error
  | some last =>
    obtain ⟨r, ho, -⟩ := h.exists_region hid
    have hg' := remove_eq_ok_iff.2 ⟨_, ho, rfl, rfl⟩
    rw [hg']
    refine .ok ⟨h.consistent.remove hg', h.cellSize_eq, fun a => ?_⟩
    rw [shape?_erase, h.shape?_eq, getElem?_erase_ite]

/-- So does relocating, which leaves the grid with the new shape whether the cells change or not. -/
theorem Holds.relocate_inStep (h : g.Holds cellSize (d[·]?)) (id : ι) (shape : Shape S) :
    InStep cellSize (g.perform (.relocate id shape)) (d.perform cellSize (.relocate id shape)) := by
  rw [Grid.perform, Directory.perform]
  cases hid : d[id]? with
  | none =>
    rw [Grid.relocate, h.getElem?_eq_none hid]
    exact .error
  | some last =>
    obtain ⟨old, ho, hold⟩ := h.exists_region hid
    cases hr : shape.region? cellSize with
    | none =>
      rw [Grid.relocate, ho, regionFor?, h.cellSize_eq, hr]
      exact .error
    | some new =>
      have hchanged : decide (last.region? cellSize ≠ some new) = decide (old ≠ new) := by
        simp only [hold, ne_eq, Option.some.injEq]
      have hg' := relocate_eq_ok_iff.2 ⟨_, new, ho, h.cellSize_eq ▸ hr, hchanged, rfl⟩
      rw [hg']
      refine .ok ⟨h.consistent.relocate hg', h.cellSize_eq, fun a => ?_⟩
      rw [shape?_insert, h.shape?_eq, getElem?_insert_ite]

/-- One action, whichever it is. -/
theorem Holds.inStep (h : g.Holds cellSize (d[·]?)) (a : Action ι S) :
    InStep cellSize (g.perform a) (d.perform cellSize a) := by
  cases a with
  | insert id shape => exact h.insert_inStep id shape
  | remove id => exact h.remove_inStep id
  | relocate id shape => exact h.relocate_inStep id shape
  | clear =>
    refine .ok ⟨consistent_empty g.cellSize, h.cellSize_eq, fun a => ?_⟩
    rw [clear, (holds_empty g.cellSize).shape?_eq, Std.ExtTreeMap.getElem?_empty]

/-! ## Runs -/

/-- An action is answered in the same way. -/
theorem Holds.answer_eq (h : g.Holds cellSize (d[·]?)) (a : Action ι S) :
    InPlace.answer g a = (·.1) <$> d.perform cellSize a := by
  rw [InPlace.answer_eq]
  have hstep := h.inStep a
  generalize g.perform a = x, d.perform cellSize a = y at hstep
  cases hstep <;> rfl

/-- An action, whether it fails or not, keeps the grid and the directory in step. -/
theorem Holds.after (h : g.Holds cellSize (d[·]?)) (a : Action ι S) :
    (InPlace.after g a).Holds cellSize ((d.after cellSize a)[·]?) := by
  rw [InPlace.after_eq, Grid.after, Directory.after]
  have hstep := h.inStep a
  generalize g.perform a = x, d.perform cellSize a = y at hstep
  cases hstep with
  | ok hafter => exact hafter
  | error => exact h

/-- A run is answered in the same way. -/
theorem Holds.answers_eq (h : g.Holds cellSize (d[·]?)) (actions : List (Action ι S)) :
    InPlace.answers g actions = d.answers cellSize actions := by
  induction actions generalizing g d with
  | nil => rfl
  | cons a actions ih => rw [InPlace.answers, Directory.answers, h.answer_eq, ih (h.after a)]

/-- A run keeps the grid and the directory in step. -/
theorem Holds.run (h : g.Holds cellSize (d[·]?)) (actions : List (Action ι S)) :
    (InPlace.run g actions).Holds cellSize ((d.run cellSize actions)[·]?) := by
  rw [InPlace.run, Directory.run]
  induction actions generalizing g d with
  | nil => exact h
  | cons a actions ih => exact ih (h.after a)

/-- In every state that a new grid is brought to, it holds what a directory does. -/
theorem holds_run (hg : new cellSize = .ok g) (actions : List (Action ι S)) :
    (g.run actions).Holds cellSize ((Directory.run cellSize ∅ actions)[·]?) := by
  obtain ⟨-, rfl⟩ := new_eq_ok_iff.1 hg
  rw [← InPlace.run_eq]
  exact (holds_directory_empty cellSize).run actions

/-- All shapes in a directory can be placed, if it is that of a grid. -/
theorem Holds.placeable (h : g.Holds cellSize (d[·]?)) : Placeable cellSize d.toList := by
  rintro ⟨id, shape⟩ hmem
  obtain ⟨r, -, hr⟩ := h.exists_region (Std.ExtTreeMap.mem_toList_iff_getElem?_eq_some.1 hmem)
  exact Option.isSome_iff_exists.2 ⟨r, hr⟩

/-- The objects of a directory are inserted into an empty grid without fail, in any order, and what
    comes of it cannot be told from any other grid that holds them. -/
theorem Holds.alike_insertions (h : g.Holds cellSize (d[·]?)) {order : List (ι × Shape S)}
    (horder : order.Perm d.toList) :
    InPlace.answers (empty cellSize) (Directory.insertions order) =
        order.map (fun _ => .ok .done) ∧
      g.Alike (InPlace.run (empty cellSize) (Directory.insertions order)) := by
  have hnodup : (order.map (·.1)).Nodup := by
    rw [(horder.map _).nodup_iff, Std.ExtTreeMap.map_fst_toList_eq_keys]
    exact Std.ExtTreeMap.nodup_keys
  have hempty : (empty cellSize : Grid ι S).Holds cellSize ((∅ : Directory ι S)[·]?) :=
    holds_directory_empty cellSize
  obtain ⟨hanswers, hrun⟩ := Directory.run_insertions (d := ∅) hnodup
    (fun _ _ => Std.ExtTreeMap.not_mem_empty) fun u hu => h.placeable u (horder.mem_iff.1 hu)
  refine ⟨(hempty.answers_eq _).trans hanswers, h.alike ((hempty.run _).congr fun a => ?_)⟩
  -- The directory that has been built is the one that there was.
  refine Option.ext fun shape => ?_
  rw [hrun, Std.ExtTreeMap.getElem?_empty, horder.mem_iff,
    Std.ExtTreeMap.mem_toList_iff_getElem?_eq_some]
  exact or_iff_left nofun

/-- Relocating an object does what removing it and inserting it again does. -/
theorem Holds.alike_relocate (h : g.Holds cellSize (d[·]?)) {reply : Reply S}
    (hreply : InPlace.answer g (.relocate id shape) = .ok reply) :
    (∃ last, InPlace.answers g [.remove id, .insert id shape] =
      [.ok (.removed last), .ok .done]) ∧
      (InPlace.after g (.relocate id shape)).Alike
        (InPlace.run g [.remove id, .insert id shape]) := by
  rw [h.answer_eq, map_eq_ok_iff] at hreply
  obtain ⟨⟨_, d'⟩, hd', -⟩ := hreply
  obtain ⟨last, hlast, hshape, rfl⟩ := Directory.perform_relocate hd'
  have hremove := Directory.perform_remove cellSize hlast
  have hinsert := Directory.perform_insert (d := d.erase id)
    (fun hmem => (Std.ExtTreeMap.mem_erase.1 hmem).1 Std.ReflCmp.compare_self) hshape
  refine ⟨⟨last, ?_⟩, (h.after _).alike ((h.run _).congr fun a => ?_)⟩
  · rw [h.answers_eq, Directory.answers, Directory.answers, Directory.after, hremove, hinsert]
    rfl
  · rw [Directory.run, List.foldl_cons, List.foldl_cons, List.foldl_nil]
    simp only [Directory.after, hd', hremove, hinsert]
    rw [getElem?_insert_ite, getElem?_insert_ite,
      getElem?_erase_ite]
    split <;> rfl

/-- What some actions lead to is no more than a plain map from handles to shapes. -/
structure RefinesDirectory (cellSize : S) (g : Grid ι S) (actions : List (Action ι S)) : Prop where
  /-- All answers are those of a directory. -/
  answers_eq : InPlace.answers g actions = Directory.answers cellSize ∅ actions
  /-- Each object has the shape that the directory has for it. -/
  shape?_eq : ∀ id, (InPlace.run g actions).shape? id = (Directory.run cellSize ∅ actions)[id]?
  /-- An action that fails after that changes nothing. -/
  unchanged : ∀ a e, InPlace.answer (InPlace.run g actions) a = .error e →
    InPlace.after (InPlace.run g actions) a = InPlace.run g actions
  /-- The grid cannot be told from one into which the objects of the directory are inserted, in
      whatever order. That does not fail. -/
  alike_insertions : ∀ order, order.Perm (Directory.run cellSize ∅ actions).toList →
    InPlace.answers g (Directory.insertions order) = order.map (fun _ => .ok .done) ∧
      (InPlace.run g actions).Alike (InPlace.run g (Directory.insertions order))
  /-- Relocating an object after that cannot be told from removing it and inserting it again. -/
  alike_relocate : ∀ id shape reply,
    InPlace.answer (InPlace.run g actions) (.relocate id shape) = .ok reply →
    (∃ last, InPlace.answers (InPlace.run g actions) [.remove id, .insert id shape] =
      [.ok (.removed last), .ok .done]) ∧
      (InPlace.after (InPlace.run g actions) (.relocate id shape)).Alike
        (InPlace.run (InPlace.run g actions) [.remove id, .insert id shape])

/-- Whatever is asked of a new grid, it is no more than a plain map from handles to shapes. -/
theorem refines_directory {cellSize : S} (h : new cellSize = .ok g) (actions : List (Action ι S)) :
    RefinesDirectory cellSize g actions := by
  obtain ⟨-, rfl⟩ := new_eq_ok_iff.1 h
  have hstart : (empty cellSize : Grid ι S).Holds cellSize ((∅ : Directory ι S)[·]?) :=
    holds_directory_empty cellSize
  have hrun := hstart.run actions
  exact {
    answers_eq := hstart.answers_eq actions
    shape?_eq := hrun.shape?_eq
    unchanged := fun _ _ he => InPlace.after_of_error he
    alike_insertions := fun _ horder => hrun.alike_insertions horder
    alike_relocate := fun _ _ _ hreply => hrun.alike_relocate hreply }

/-- A large object is moved to cells of which it had some, then within these cells, and another is
    removed. Inserting it twice fails, and so does moving what is not there, or to nowhere. -/
theorem refines_directory_overlapping :
    new (10 : ℚ) = .ok (empty 10 : Grid UInt32 ℚ) ∧
      RefinesDirectory (10 : ℚ) (empty 10 : Grid UInt32 ℚ) [
        .insert 1 { position := ⟨0, 0⟩, extent := .disk 15 },
        .insert 2 { position := ⟨5, 5⟩, extent := .box 20 10 },
        .relocate 2 { position := ⟨15, 5⟩, extent := .box 20 20 },
        .relocate 2 { position := ⟨16, 6⟩, extent := .box 20 20 },
        .insert 2 { position := ⟨0, 0⟩, extent := .disk (-1) },
        .relocate 2 { position := ⟨0, 0⟩, extent := .disk (-1) },
        .relocate 3 { position := ⟨0, 0⟩, extent := .disk (-1) },
        .remove 1] := by
  have h : new (10 : ℚ) = .ok (empty 10 : Grid UInt32 ℚ) := new_exact (by norm_num)
  exact ⟨h, refines_directory h _⟩

end Grid

end Broadphase
