import Mathlib.Init

/-!
# Success

When a computation that may fail succeeds, and when it fails, taken apart into its
steps. Some computations also change a state; theirs stays changed when they fail.
-/

namespace Broadphase

variable {ε α β : Type} {x : Except ε α}

theorem map_eq_ok_iff {f : α → β} {b : β} : f <$> x = .ok b ↔ ∃ a, x = .ok a ∧ f a = b := by
  cases x <;> simp [Functor.map, Except.map]

theorem map_eq_error_iff {f : α → β} {e : ε} : f <$> x = .error e ↔ x = .error e := by
  cases x <;> simp [Functor.map, Except.map]

theorem bind_eq_ok_iff {f : α → Except ε β} {b : β} :
    x >>= f = .ok b ↔ ∃ a, x = .ok a ∧ f a = .ok b := by
  cases x <;> simp [bind, Except.bind]

@[simp] theorem throw_ne_ok {e : ε} {a : α} : (throw e : Except ε α) ≠ .ok a := nofun

@[simp] theorem pure_eq_ok (a : α) : (pure a : Except ε α) = .ok a := rfl

section State

variable {σ : Type} {x : EStateM ε σ α} {f : α → EStateM ε σ β} {a : α} {e : ε} {s s' : σ}

/-- Work goes on where the work before it has led to. -/
theorem run_bind_ok (h : x.run s = .ok a s') : (x >>= f).run s = (f a).run s' := by
  rw [EStateM.run_bind, h]

/-- After work that has failed, no other work is done. -/
theorem run_bind_error (h : x.run s = .error e s') : (x >>= f).run s = .error e s' := by
  rw [EStateM.run_bind, h]

end State

end Broadphase
