import Broadphase.InOrder
import Broadphase.Pair
import Std.Data.ExtTreeMap

/-!
# Contacts

The pairs that interact, from round to round. In each round the contacts are
given the confirmed pairs, in any order and possibly repeated, and tell what has
changed since the round before (`Contacts.update`):

* a pair that is confirmed now, but was not before, has *started*;
* one that is confirmed now and was before is *ongoing*;
* one that was confirmed before, but is not now, has *ended*.

These three lists are in the order of pairs and hold each pair once.

To tell these cases apart, the record of a pair bears the number of the round
that confirmed it last. During a round, a record that bears its number has been
counted already; after it, a record that does not is out of date, and dropped.
-/

namespace Broadphase

/-- How far an interaction has come. -/
inductive Stage
  /-- The pair interacts in this round, but did not in the one before. -/
  | started
  /-- The pair interacts in this round and did in the one before. -/
  | ongoing
  deriving DecidableEq, Repr

/-- What has changed from one round to the next. -/
@[ext]
structure Changes (ι : Type) [Handle ι] where
  /-- The pairs that no longer interact. -/
  ended : List (Pair ι)
  /-- The pairs that still interact. -/
  ongoing : List (Pair ι)
  /-- The pairs that have come to interact. -/
  started : List (Pair ι)
  deriving DecidableEq

/-- What is kept of one pair. -/
structure Record where
  /-- How far its interaction has come. -/
  stage : Stage
  /-- The round that confirmed it last, counted from one; zero if none has. -/
  round : Nat
  deriving DecidableEq, Repr

/-- The pairs that interact. -/
@[ext]
structure Contacts (ι : Type) [Handle ι] where
  /-- The record of each interacting pair. -/
  records : Std.ExtTreeMap (Pair ι) Record
  /-- What changed in the latest round. -/
  changes : Changes ι
  /-- The number of rounds so far. -/
  round : Nat

variable {ι : Type} [Handle ι]

namespace Changes

/-- No pairs at all. -/
def none : Changes ι := ⟨[], [], []⟩

/-- There are no pairs in any of the lists. -/
def isEmpty (c : Changes ι) : Bool := c.ended.isEmpty && c.ongoing.isEmpty && c.started.isEmpty

/-- The same lists, emptied. -/
def clear (_ : Changes ι) : Changes ι := none

/-- The lists, each in order. -/
def sort (c : Changes ι) : Changes ι :=
  ⟨Broadphase.sort c.ended, Broadphase.sort c.ongoing, Broadphase.sort c.started⟩

end Changes

namespace Contacts

/-- No contacts, before the first round. -/
def new : Contacts ι := ⟨∅, .none, 0⟩

variable (c : Contacts ι)

/-! ## Lookups -/

/-- How far the interaction of a pair has come, if it interacts. -/
def stage? (p : Pair ι) : Option Stage := c.records[p]?.map (·.stage)

/-- A pair interacts. -/
instance : Membership (Pair ι) (Contacts ι) where
  mem c p := p ∈ c.records

instance (p : Pair ι) : Decidable (p ∈ c) := inferInstanceAs (Decidable (p ∈ c.records))

/-- The number of interacting pairs. -/
def size : Nat := c.records.size

/-- No pair interacts. -/
def isEmpty : Bool := c.records.isEmpty

/-- Every interacting pair and how far its interaction has come, in order. -/
def toList : List (Pair ι × Stage) := c.records.toList.map fun (p, r) => (p, r.stage)

/-- The interacting pairs that a handle is in, in order. -/
def pairsOf (id : ι) : List (Pair ι) := c.records.keys.filter (id ∈ ·)

/-! ## Rounds -/

/-- A round begins. -/
def advance : Contacts ι := { c with round := c.round + 1, changes := .none }

/-- A pair is confirmed. It is counted as started or as ongoing, unless it was already. -/
def confirm (p : Pair ι) : Contacts ι :=
  let record := c.records[p]?.getD ⟨.started, 0⟩
  if record.round = c.round then c
  else if record.round = 0 then
    { c with
      records := c.records.insert p { record with round := c.round }
      changes := { c.changes with started := p :: c.changes.started } }
  else
    { c with
      records := c.records.insert p ⟨.ongoing, c.round⟩
      changes := { c.changes with ongoing := p :: c.changes.ongoing } }

/-- A round ends. The pairs that it has not confirmed are dropped, and counted as ended. -/
def settle : Contacts ι :=
  let current (r : Record) : Bool := r.round = c.round
  { c with
    records := c.records.filter fun _ r => current r
    changes := { c.changes with ended := (c.records.filter fun _ r => !current r).keys }.sort }

/-- The contacts after a round that confirmed the given pairs. -/
def update (confirmed : List (Pair ι)) : Contacts ι := (confirmed.foldl confirm c.advance).settle

end Contacts

end Broadphase
