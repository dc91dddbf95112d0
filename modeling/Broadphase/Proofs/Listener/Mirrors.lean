import Broadphase.Listener
import Broadphase.Proofs.Contacts.Rounds
import Mathlib.Computability.RegularExpressions

/-!
# Mirrors

A listener that hears everything can keep a set of pairs of its own: it removes
the pairs that it is told have ended and adds those that have started. Nothing of
what it is told may surprise it, or it gives up (`Mirror.hear`): a pair that ends
or is ongoing must be in its set, and one that starts must not be.

* `Changes.Between.mirror`: if the set is the contacts before a round, then what is
  told of the round surprises nobody, and leads to the contacts after it;
* `Mirror.lifecycle`: of each pair, a listener that is never surprised is told that
  it has started, then any number of times that it is ongoing, then that it has
  ended, and so on all over again.
-/

namespace Broadphase

variable {ι : Type} [Handle ι]

/-- One pair, and what is told of it. -/
abbrev News (ι : Type) [Handle ι] := Notice × Pair ι

/-- What is told in one delivery, pair by pair. -/
def Delivery.news (d : Delivery ι) : List (News ι) := d.pairs.map (d.notice, ·)

/-- What is told of some changes, pair by pair. -/
def Changes.news (c : Changes ι) : List (News ι) :=
  c.ended.map (.ended, ·) ++ (c.ongoing.map (.ongoing, ·) ++ c.started.map (.started, ·))

/-- What one listener has been told, pair by pair. -/
def newsFor (listener : Nat) (told : List (Delivery ι)) : List (News ι) :=
  (told.filter (·.listener = listener)).flatMap Delivery.news

/-- What has been told of one pair. -/
def noticesOf (p : Pair ι) (news : List (News ι)) : List Notice :=
  (news.filter (·.2 = p)).map (·.1)

theorem noticesOf_concat_self {p : Pair ι} {notice : Notice} {news : List (News ι)} :
    noticesOf p (news ++ [(notice, p)]) = noticesOf p news ++ [notice] := by
  simp [noticesOf]

theorem noticesOf_concat_of_ne {p q : Pair ι} {notice : Notice} {news : List (News ι)}
    (h : q ≠ p) : noticesOf p (news ++ [(notice, q)]) = noticesOf p news := by
  simp [noticesOf, h]

/-- A set of pairs that is kept by listening. -/
abbrev Mirror (ι : Type) [Handle ι] := Std.ExtTreeSet (Pair ι)

namespace Mirror

variable {m m' : Mirror ι} {p q : Pair ι} {ps : List (Pair ι)} {news : List (News ι)}

/-- The set after hearing of one pair, unless that comes as a surprise. -/
def hear (m : Mirror ι) : News ι → Option (Mirror ι)
  | (.ended, p) => if p ∈ m then some (m.erase p) else none
  | (.ongoing, p) => if p ∈ m then some m else none
  | (.started, p) => if p ∈ m then none else some (m.insert p)

/-- The set after hearing of some pairs in turn, unless one of them comes as a surprise. -/
def hearAll (m : Mirror ι) (news : List (News ι)) : Option (Mirror ι) := news.foldlM hear m

theorem hearAll_append {news' : List (News ι)} :
    m.hearAll (news ++ news') = (m.hearAll news).bind fun m => m.hearAll news' := List.foldlM_append

theorem hearAll_singleton {x : News ι} : m.hearAll [x] = m.hear x := by
  cases h : m.hear x <;> simp [hearAll, h]

theorem hear_ended_iff : m.hear (.ended, p) = some m' ↔ p ∈ m ∧ m' = m.erase p := by
  rw [hear, Option.ite_none_right_eq_some, Option.some.injEq, eq_comm]

theorem hear_ongoing_iff : m.hear (.ongoing, p) = some m' ↔ p ∈ m ∧ m' = m := by
  rw [hear, Option.ite_none_right_eq_some, Option.some.injEq, eq_comm]

theorem hear_started_iff : m.hear (.started, p) = some m' ↔ p ∉ m ∧ m' = m.insert p := by
  rw [hear, Option.ite_none_left_eq_some, Option.some.injEq, eq_comm]

/-- Hearing of pairs that have ended takes them away, if they are there. -/
theorem hearAll_ended (hnodup : ps.Nodup) (hps : ∀ p ∈ ps, p ∈ m) :
    ∃ m', m.hearAll (ps.map (.ended, ·)) = some m' ∧ ∀ q, q ∈ m' ↔ q ∈ m ∧ q ∉ ps := by
  induction ps generalizing m with
  | nil => exact ⟨m, rfl, fun q => (and_iff_left List.not_mem_nil).symm⟩
  | cons p ps ih =>
    obtain ⟨hp, hnodup⟩ := List.nodup_cons.1 hnodup
    obtain ⟨m', hm', hmem⟩ := ih (m := m.erase p) hnodup fun q hq =>
      mem_erase_iff.2 ⟨ne_of_mem_of_not_mem hq hp, hps q (List.mem_cons_of_mem _ hq)⟩
    refine ⟨m', ?_, fun q => ?_⟩
    · rw [List.map_cons, hearAll, List.foldlM_cons,
        hear_ended_iff.2 ⟨hps p List.mem_cons_self, rfl⟩]
      exact hm'
    · rw [hmem, mem_erase_iff, List.mem_cons, not_or]
      tauto

/-- Hearing of ongoing pairs changes nothing, if they are there. -/
theorem hearAll_ongoing (hps : ∀ p ∈ ps, p ∈ m) : m.hearAll (ps.map (.ongoing, ·)) = some m := by
  induction ps with
  | nil => rfl
  | cons p ps ih =>
    rw [List.map_cons, hearAll, List.foldlM_cons,
      hear_ongoing_iff.2 ⟨hps p List.mem_cons_self, rfl⟩]
    exact ih fun q hq => hps q (List.mem_cons_of_mem _ hq)

/-- Hearing of pairs that have started adds them, if they are not there. -/
theorem hearAll_started (hnodup : ps.Nodup) (hps : ∀ p ∈ ps, p ∉ m) :
    ∃ m', m.hearAll (ps.map (.started, ·)) = some m' ∧ ∀ q, q ∈ m' ↔ q ∈ m ∨ q ∈ ps := by
  induction ps generalizing m with
  | nil => exact ⟨m, rfl, fun q => (or_iff_left List.not_mem_nil).symm⟩
  | cons p ps ih =>
    obtain ⟨hp, hnodup⟩ := List.nodup_cons.1 hnodup
    obtain ⟨m', hm', hmem⟩ := ih (m := m.insert p) hnodup fun q hq => by
      rw [mem_insert_iff, not_or]
      exact ⟨ne_of_mem_of_not_mem hq hp, hps q (List.mem_cons_of_mem _ hq)⟩
    refine ⟨m', ?_, fun q => ?_⟩
    · rw [List.map_cons, hearAll, List.foldlM_cons,
        hear_started_iff.2 ⟨hps p List.mem_cons_self, rfl⟩]
      exact hm'
    · rw [hmem, mem_insert_iff, List.mem_cons, or_assoc, or_left_comm]

end Mirror

/-- What is told of the changes from one set of pairs to another leads a mirror from the one to the
    other, without a surprise. -/
theorem Changes.Between.mirror {old new : Pair ι → Prop} {c : Changes ι} {m : Mirror ι}
    (h : c.Between old new) (hm : ∀ p, p ∈ m ↔ old p) :
    ∃ m', m.hearAll c.news = some m' ∧ ∀ p, p ∈ m' ↔ new p := by
  have hended : ∀ p ∈ c.ended, p ∈ m := fun p hp => (hm p).2 ((h.mem_ended p).1 hp).1
  obtain ⟨m₁, h₁, hmem₁⟩ := Mirror.hearAll_ended h.ascending_ended.nodup hended
  have hkept (p : Pair ι) : p ∈ m₁ ↔ old p ∧ new p := by
    rw [hmem₁, hm, h.mem_ended]
    tauto
  have hongoing : ∀ p ∈ c.ongoing, p ∈ m₁ := fun p hp =>
    (hkept p).2 ((h.mem_ongoing p).1 hp).symm
  have hstarted : ∀ p ∈ c.started, p ∉ m₁ := fun p hp hmem =>
    ((h.mem_started p).1 hp).2 ((hkept p).1 hmem).1
  obtain ⟨m₂, h₂, hmem₂⟩ := Mirror.hearAll_started h.ascending_started.nodup hstarted
  refine ⟨m₂, ?_, fun p => ?_⟩
  · rw [news, Mirror.hearAll_append, h₁, Option.bind_some, Mirror.hearAll_append,
      Mirror.hearAll_ongoing hongoing]
    exact h₂
  · rw [hmem₂, hkept, h.mem_started]
    tauto

/-! ## Lifecycles -/

namespace Notice

open RegularExpression

variable {r : RegularExpression Notice} {ns ns' : List Notice}

/-- A pair starts, and goes on for any number of rounds. -/
def begun : RegularExpression Notice := char started * (char ongoing).star

/-- A pair starts, goes on and ends, any number of times. -/
def finished : RegularExpression Notice := (begun * char ended).star

/-- A word can be put after any number of words. -/
theorem append_mem_star (h : ns ∈ r.star.matches') (h' : ns' ∈ r.matches') :
    ns ++ ns' ∈ r.star.matches' := by
  obtain ⟨words, rfl, hwords⟩ := Language.mem_kstar.1 h
  refine Language.mem_kstar.2 ⟨words ++ [ns'], by simp, fun word hword => ?_⟩
  rcases List.mem_append.1 hword with hold | hnew
  · exact hwords word hold
  · rwa [List.mem_singleton.1 hnew]

theorem append_started (h : ns ∈ finished.matches') :
    ns ++ [started] ∈ (finished * begun).matches' := by
  have hbegun : [started] ∈ begun.matches' :=
    Language.mem_mul.2 ⟨[started], rfl, [], Language.nil_mem_kstar _, rfl⟩
  exact Language.mem_mul.2 ⟨ns, h, _, hbegun, rfl⟩

theorem append_ongoing (h : ns ∈ (finished * begun).matches') :
    ns ++ [ongoing] ∈ (finished * begun).matches' := by
  obtain ⟨done, hdone, _, hrest, rfl⟩ := Language.mem_mul.1 h
  obtain ⟨start, hstart, goings, hgoings, rfl⟩ := Language.mem_mul.1 hrest
  have hbegun : start ++ (goings ++ [ongoing]) ∈ begun.matches' :=
    Language.mem_mul.2 ⟨start, hstart, _, append_mem_star hgoings rfl, rfl⟩
  exact Language.mem_mul.2 ⟨done, hdone, _, hbegun, by simp only [List.append_assoc]⟩

theorem append_ended (h : ns ∈ (finished * begun).matches') :
    ns ++ [ended] ∈ finished.matches' := by
  obtain ⟨done, hdone, rest, hrest, rfl⟩ := Language.mem_mul.1 h
  rw [List.append_assoc]
  exact append_mem_star hdone (Language.mem_mul.2 ⟨rest, hrest, [ended], rfl, rfl⟩)

end Notice

namespace Mirror

variable {m m' : Mirror ι} {p q : Pair ι} {notice : Notice} {news : List (News ι)}

/-- Hearing of one pair says nothing of the others. -/
theorem mem_of_hear_of_ne (h : m.hear (notice, q) = some m') (hne : q ≠ p) : p ∈ m' ↔ p ∈ m := by
  cases notice with
  | ended =>
    obtain ⟨-, rfl⟩ := hear_ended_iff.1 h
    simp only [mem_erase_iff, hne.symm, ne_eq, not_false_eq_true, true_and]
  | ongoing =>
    obtain ⟨-, rfl⟩ := hear_ongoing_iff.1 h
    rfl
  | started =>
    obtain ⟨-, rfl⟩ := hear_started_iff.1 h
    simp only [mem_insert_iff, hne.symm, false_or]

/-- What a mirror that is never surprised has been told of a pair: that it has started, gone on and
    ended, any number of times, and then, if it is in the mirror, that it has started and gone
    on. -/
theorem lifecycle (h : hearAll ∅ news = some m) (p : Pair ι) :
    (p ∉ m → noticesOf p news ∈ Notice.finished.matches') ∧
      (p ∈ m → noticesOf p news ∈ (Notice.finished * Notice.begun).matches') := by
  induction news using List.reverseRecOn generalizing m with
  | nil =>
    obtain rfl := Option.some.inj h
    exact ⟨fun _ => Language.nil_mem_kstar _, fun hp => absurd hp Std.ExtTreeSet.not_mem_empty⟩
  | append_singleton news last ih =>
    obtain ⟨notice, q⟩ := last
    rw [hearAll_append] at h
    obtain ⟨m₀, h₀, hlast⟩ := Option.bind_eq_some_iff.1 h
    rw [hearAll_singleton] at hlast
    obtain ⟨hout, hin⟩ := ih h₀
    by_cases hq : q = p
    · subst hq
      rw [noticesOf_concat_self]
      -- Being told of the pair is no surprise, so it was where it should be.
      cases notice with
      | ended =>
        obtain ⟨hp, rfl⟩ := hear_ended_iff.1 hlast
        exact ⟨fun _ => Notice.append_ended (hin hp), fun hp' => absurd rfl (mem_erase_iff.1 hp').1⟩
      | ongoing =>
        obtain ⟨hp, rfl⟩ := hear_ongoing_iff.1 hlast
        exact ⟨fun hp' => absurd hp hp', fun _ => Notice.append_ongoing (hin hp)⟩
      | started =>
        obtain ⟨hp, rfl⟩ := hear_started_iff.1 hlast
        exact ⟨fun hp' => absurd (mem_insert_iff.2 (.inl rfl)) hp',
          fun _ => Notice.append_started (hout hp)⟩
    · rw [noticesOf_concat_of_ne hq, mem_of_hear_of_ne hlast hq]
      exact ⟨hout, hin⟩

end Mirror

end Broadphase
