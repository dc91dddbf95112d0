import Broadphase.Contacts

/-!
# Sweeps

At the end of a round, the records that it has not confirmed are dropped
(`Contacts.settle`). A sweep does so record by record: it visits each of them, in
an order of its own, and drops it or leaves it. Only the order in which the pairs
that have ended are noted down depends on that, and they are put in order when
the sweep is over. So it makes no difference which sweep ends a round, and a round
that ends with one is the same as `Contacts.update`.
-/

namespace Broadphase

/-- An order in which to visit the records of contacts. -/
structure Sweep (ι : Type) [Handle ι] where
  /-- The records, in the order in which they are visited. -/
  visits : Contacts ι → List (Pair ι × Record)
  /-- Each record is visited once. -/
  visits_perm : ∀ c, (visits c).Perm c.records.toList

variable {ι : Type} [Handle ι]

namespace Contacts

variable (c : Contacts ι)

/-- A record is visited. If the round has not confirmed its pair, the record is dropped, and the
    pair counted as ended. -/
def visit : Pair ι × Record → Contacts ι
  | (p, r) =>
    if r.round = c.round then c
    else { c with
      records := c.records.erase p
      changes := { c.changes with ended := p :: c.changes.ended } }

/-- A round ends with a sweep. -/
def settleBy (sweep : Sweep ι) : Contacts ι :=
  let swept := (sweep.visits c).foldl visit c
  { swept with changes := swept.changes.sort }

/-- The contacts after a round that confirmed the given pairs and ended with a sweep. -/
def updateBy (sweep : Sweep ι) (confirmed : List (Pair ι)) : Contacts ι :=
  (confirmed.foldl confirm c.advance).settleBy sweep

/-- The contacts after some rounds, each with the pairs that it confirmed and the sweep at its
    end. -/
def run (rounds : List (List (Pair ι) × Sweep ι)) : Contacts ι :=
  rounds.foldl (fun c (confirmed, sweep) => c.updateBy sweep confirmed) c

end Contacts

end Broadphase
