import Broadphase.Grid.InPlace
import Broadphase.Proofs.Grid.Consistency

/-!
# Changing a grid in place

An action that is carried out in place answers what `Grid.perform` answers, and
leads to the same grid; if it fails, the grid is as it was (`run_perform`). All
that can go wrong is found out before the first change.
-/

namespace Broadphase.Grid.InPlace

variable {ι S : Type} [Handle ι] [Scalar S] {g g' : Grid ι S} {id : ι} {shape : Shape S}

/-! ## Steps -/

omit [Scalar S] in
/-- Steps that only change the cells, one after the other. -/
theorem run_forM {step : Cell → Edit ι S Unit} {change : Occupants ι → Cell → Occupants ι}
    (hstep : ∀ (g : Grid ι S) c, (step c).run g = .ok () { g with cells := change g.cells c })
    (cs : List Cell) (g : Grid ι S) :
    (cs.forM step).run g = .ok () { g with cells := cs.foldl change g.cells } := by
  rw [List.forM_eq_forM]
  induction cs generalizing g with
  | nil => rfl
  | cons c cs ih => rw [List.forM_cons, run_bind_ok (hstep g c), ih, List.foldl_cons]

omit [Scalar S] in
theorem run_forM_enter (cs : List Cell) (g : Grid ι S) :
    (cs.forM (enter id)).run g = .ok () { g with cells := cs.foldl (.enter id) g.cells } :=
  run_forM (fun _ _ => rfl) cs g

omit [Scalar S] in
theorem run_forM_leave (cs : List Cell) (g : Grid ι S) :
    (cs.forM (leave id)).run g = .ok () { g with cells := cs.foldl (.leave id) g.cells } :=
  run_forM (fun _ _ => rfl) cs g

/-! ## Actions -/

/-- What an edit comes to if it has this result and changes nothing when it fails. -/
def outcome {α : Type} (g : Grid ι S) : Except (GridError ι) (α × Grid ι S) →
    EStateM.Result (GridError ι) (Grid ι S) α
  | .ok (a, g') => .ok a g'
  | .error e => .error e g

omit [Scalar S] in
/-- What an edit returns can be given another form. -/
theorem run_bind_pure {α β : Type} {x : Edit ι S α}
    {result : Except (GridError ι) (α × Grid ι S)} (h : x.run g = outcome g result) (f : α → β) :
    (x >>= fun a => pure (f a)).run g = outcome g ((fun (a, g) => (f a, g)) <$> result) := by
  rw [EStateM.run_bind, h]
  rcases result with e | ⟨a, g'⟩ <;> rfl

/-- Inserting an object step by step is inserting it at once. -/
theorem run_insert : (insert id shape).run g = outcome g (((), ·) <$> g.insert id shape) := by
  simp only [insert, Grid.insert, EStateM.run_bind, EStateM.run_get]
  split
  case isTrue => rfl
  case isFalse =>
    cases g.regionFor? shape with
    | none => rfl
    | some region => exact run_bind_ok (run_forM_enter region.cells g)

omit [Scalar S] in
/-- Removing an object step by step is removing it at once. -/
theorem run_remove : (remove id).run g = outcome g (g.remove id) := by
  simp only [remove, Grid.remove, EStateM.run_bind, EStateM.run_get]
  cases g.objects[id]? with
  | none => rfl
  | some o =>
    have hforget : (forget id : Edit ι S Unit).run g =
        .ok () { g with objects := g.objects.erase id } := rfl
    exact (run_bind_ok hforget).trans (run_bind_ok (run_forM_leave o.region.cells _))

/-- If the new cells are the old ones, there are none to leave and none to enter. -/
theorem filter_not_mem_self (r : Region) : r.cells.filter (· ∉ r) = [] := by
  simp only [List.filter_eq_nil_iff, Region.mem_cells, decide_eq_true_eq, not_not, imp_self,
    implies_true]

/-- Relocating an object step by step is relocating it at once, also when it stops early because the
    cells have not changed. -/
theorem run_relocate : (relocate id shape).run g = outcome g (g.relocate id shape) := by
  simp only [relocate, EStateM.run_bind, EStateM.run_get]
  cases ho : g.objects[id]? with
  | none =>
    rw [Grid.relocate, ho]
    rfl
  | some o => cases hr : g.regionFor? shape with
    | none =>
      rw [Grid.relocate, ho, hr]
      rfl
    | some new =>
      rw [relocate_eq_ok_iff.2 ⟨o, new, ho, hr, rfl, rfl⟩]
      have hnote (g : Grid ι S) (r : Region) : (note id ⟨shape, r⟩ : Edit ι S Unit).run g =
          .ok () { g with objects := g.objects.insert id ⟨shape, r⟩ } := rfl
      refine (run_bind_ok (hnote g o.region)).trans ?_
      by_cases hsame : o.region = new
      · subst hsame
        rw [if_pos rfl, filter_not_mem_self, decide_eq_false (not_not.2 rfl)]
        rfl
      · rw [if_neg hsame, decide_eq_true hsame]
        refine (run_bind_ok (hnote _ new)).trans ?_
        rw [insert_insert_self]
        refine (run_bind_ok (run_forM_leave (o.region.cells.filter (· ∉ new)) _)).trans ?_
        exact run_bind_ok (run_forM_enter (new.cells.filter (· ∉ o.region)) _)

/-- An action carried out step by step is the same as one carried out at once. -/
theorem run_perform (a : Action ι S) : (perform a).run g = outcome g (g.perform a) := by
  cases a with
  | insert id shape =>
    refine (run_bind_pure run_insert fun _ => Reply.done).trans (congrArg _ ?_)
    rw [Grid.perform]
    cases g.insert id shape <;> rfl
  | remove id => exact run_bind_pure run_remove _
  | relocate id shape => exact run_bind_pure run_relocate _
  | clear => rfl

/-! ## Runs -/

theorem answer_eq (g : Grid ι S) (a : Action ι S) : answer g a = (·.1) <$> g.perform a := by
  rw [answer, run_perform]
  rcases g.perform a with e | ⟨reply, g'⟩ <;> rfl

theorem after_eq (g : Grid ι S) (a : Action ι S) : after g a = g.after a := by
  rw [after, run_perform, Grid.after]
  rcases g.perform a with e | ⟨reply, g'⟩ <;> rfl

/-- So is a run. -/
theorem run_eq (g : Grid ι S) (actions : List (Action ι S)) : run g actions = g.run actions := by
  rw [run, Grid.run]
  exact congrFun₂ (congrArg List.foldl (funext₂ after_eq)) g actions

/-- An action that fails changes nothing. -/
theorem after_of_error {a : Action ι S} {e : GridError ι} (h : answer g a = .error e) :
    after g a = g := by
  rw [answer_eq, map_eq_error_iff] at h
  rw [after_eq, Grid.after, h]

end Broadphase.Grid.InPlace
