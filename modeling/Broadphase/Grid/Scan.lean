import Broadphase.Grid
import Broadphase.Pair

/-!
# Scans

A scan proposes the *candidates* of a grid: the pairs of objects that have cells
which are the same or adjacent, diagonally too. It goes through the occupied
cells in some order and lets the handles in each of them meet

* each other, and
* the handles in the four adjacent cells *ahead*, one to the right and three in
  the row after it.

Of two adjacent cells exactly one is ahead of the other, so each pair of cells
meets once. Objects that occupy many cells may meet many times, and an object
meets itself; the scan remembers the pairs it has proposed and proposes each only
once.

A scan is driven from outside, one pair at a time (`Scan.next`), and it may be
left before its end. It stops in the middle of three nested loops, over the
cells, over the cells ahead of each, and over the handles that meet there
(`Block`). The memory belongs to a `Scanner`, which is used for one scan after
another and forgets everything at the start of each.
-/

namespace Broadphase

/-- The handles of one cell meeting those of the same or another cell, under way. -/
structure Block (ι : Type) where
  /-- Those who still meet others; the first of them is doing so. -/
  lhs : List ι
  /-- Those whom the first has yet to meet. -/
  rhs : List ι
  /-- Those whom each one after the first will meet: the handles of another cell, or, within one
      cell, those after it. -/
  others : Option (List ι)

/-- The memory of one scan after another. -/
structure Scanner (ι : Type) [Handle ι] where
  /-- The pairs proposed so far. -/
  seen : Std.ExtTreeSet (Pair ι)

/-- A scan under way. -/
structure Scan (ι : Type) [Handle ι] where
  /-- The memory. -/
  scanner : Scanner ι
  /-- The handles in each cell, in the order in which they meet. -/
  listing : Cell → List ι
  /-- The cells still to be visited. -/
  ahead : List Cell
  /-- The handles in the cell that is being visited. -/
  here : List ι
  /-- The cells ahead of it whose handles they have yet to meet. -/
  around : List Cell
  /-- The handles that are meeting. -/
  block : Block ι

variable {ι : Type}

/-! ## Meetings -/

/-- The steps to the adjacent cells ahead, as columns and rows. -/
def Cell.stepsAhead : List (Int32 × Int32) := [(1, 0), (-1, 1), (0, 1), (1, 1)]

/-- The adjacent cells ahead, as far as there are any. -/
def Cell.neighborsAhead (c : Cell) : List Cell :=
  Cell.stepsAhead.filterMap fun (cols, rows) => c.offset? cols rows

/-- The meetings of the handles in a list with each other. -/
def meetingsAmong : List ι → List (ι × ι)
  | [] => []
  | a :: rest => rest.map (a, ·) ++ meetingsAmong rest

/-- The meetings of the handles in a list with those in another. -/
def meetingsBetween (as bs : List ι) : List (ι × ι) := as.flatMap fun a => bs.map (a, ·)

/-- The meetings of the handles in a cell, with each other and with those ahead. -/
def meetingsAt (listing : Cell → List ι) (c : Cell) : List (ι × ι) :=
  meetingsAmong (listing c) ++
    c.neighborsAhead.flatMap fun c' => meetingsBetween (listing c) (listing c')

/-! ## Blocks -/

namespace Block

variable (b : Block ι)

/-- Nobody is meeting. -/
def empty : Block ι := ⟨[], [], none⟩

/-- The handles in a list are about to meet each other. -/
def among (as : List ι) : Block ι := ⟨as, as.tail, none⟩

/-- The handles in a list are about to meet those in another. -/
def between (as bs : List ι) : Block ι := ⟨as, bs, some bs⟩

/-- The meetings still to come, if the first of `lhs` has yet to meet `rhs`. -/
def meetingsFrom (others : Option (List ι)) : List ι → List ι → List (ι × ι)
  | [], _ => []
  | a :: as, rhs => rhs.map (a, ·) ++ meetingsFrom others as (others.getD as.tail)

/-- The meetings still to come. -/
def meetings : List (ι × ι) := meetingsFrom b.others b.lhs b.rhs

/-- The next meeting, if the first of `lhs` has yet to meet `rhs`, and the block from there on. -/
def nextFrom? (others : Option (List ι)) : List ι → List ι → Option ((ι × ι) × Block ι)
  | [], _ => none
  | a :: as, b :: rhs => some ((a, b), ⟨a :: as, rhs, others⟩)
  | _ :: as, [] => nextFrom? others as (others.getD as.tail)

/-- The next meeting, unless there is none left, and the block from there on. -/
def next? : Option ((ι × ι) × Block ι) := nextFrom? b.others b.lhs b.rhs

theorem meetingsFrom_of_nextFrom? {others : Option (List ι)} {as rhs : List ι} {m : ι × ι}
    {b : Block ι} (h : nextFrom? others as rhs = some (m, b)) :
    meetingsFrom others as rhs = m :: b.meetings := by
  induction as generalizing rhs with
  | nil => simp [nextFrom?] at h
  | cons a as ih =>
    cases rhs with
    | nil => exact ih h
    | cons b' rhs =>
      obtain ⟨rfl, rfl⟩ : (a, b') = m ∧ ⟨a :: as, rhs, others⟩ = b := by simpa [nextFrom?] using h
      rfl

/-- The next meeting is the first of those still to come. -/
theorem meetings_of_next? {b b' : Block ι} {m : ι × ι} (h : b.next? = some (m, b')) :
    b.meetings = m :: b'.meetings := meetingsFrom_of_nextFrom? h

end Block

/-! ## Scanning -/

variable {S : Type} [Handle ι] [Scalar S]

namespace Scanner

/-- A scanner that remembers nothing. -/
def new : Scanner ι := ⟨∅⟩

/-- The scanner, with its memory emptied. -/
def forget (_ : Scanner ι) : Scanner ι := new

/-- A scan of cells in some order, with the handles in each cell listed in some order. -/
def scanCells (scanner : Scanner ι) (listing : Cell → List ι) (order : List Cell) : Scan ι :=
  { scanner := scanner.forget, listing, ahead := order, here := [], around := [], block := .empty }

/-- A scan of a grid. -/
def scan (scanner : Scanner ι) (g : Grid ι S) : Scan ι :=
  scanner.scanCells (fun c => (g.cells.members c).ids) g.cells.keys

end Scanner

namespace Scan

variable (s : Scan ι)

/-- The scan with the next block: the handles in the cell that is being visited meet those in the
    next cell ahead of it or, if there is none left, those in the next cell meet each other. -/
def advance? : Option (Scan ι) :=
  match s.around, s.ahead with
  | c :: around, _ => some { s with around, block := .between s.here (s.listing c) }
  | [], c :: ahead =>
    let here := s.listing c
    some { s with ahead, here, around := c.neighborsAhead, block := .among here }
  | [], [] => none

/-- How much is left of the three loops, the outermost first. -/
def left : Nat × Nat × Nat := (s.ahead.length, s.around.length, s.block.meetings.length)

/-- Each of the loops ends before the one around it goes on. -/
def Before : Nat × Nat × Nat → Nat × Nat × Nat → Prop :=
  Prod.Lex (· < ·) (Prod.Lex (· < ·) (· < ·))

/-- Going on to the next block, an outer loop has less left. -/
theorem before_of_advance? {s s' : Scan ι} (h : s.advance? = some s') : Before s'.left s.left := by
  rw [advance?] at h
  split at h
  case h_1 c around _ hc =>
    obtain rfl := Option.some.inj h
    simp only [Before, left, hc, List.length_cons]
    exact .right _ (.left _ _ (Nat.lt_add_one _))
  case h_2 c ahead _ hc =>
    obtain rfl := Option.some.inj h
    simp only [Before, left, hc, List.length_cons]
    exact .left _ _ (Nat.lt_add_one _)
  case h_3 => exact absurd h nofun

theorem before_of_next? {s : Scan ι} {block : Block ι} {m : ι × ι}
    (h : s.block.next? = some (m, block)) : Before { s with block }.left s.left := by
  simp only [Before, left, Block.meetings_of_next? h, List.length_cons]
  exact .right _ (.right _ (Nat.lt_add_one _))

/-- The next candidate, unless there is none left, and the scan from there on. -/
def next (s : Scan ι) : Option (Pair ι) × Scan ι :=
  match _h : s.block.next? with
  | some ((a, b), block) =>
    match Pair.of? a b with
    | some p =>
      if p ∈ s.scanner.seen then next { s with block }
      else (some p, { s with block, scanner := ⟨s.scanner.seen.insert p⟩ })
    | none => next { s with block }
  | none =>
    match _h' : s.advance? with
    | some s' => next s'
    | none => (none, s)
termination_by s.left
decreasing_by
  · exact before_of_next? _h
  · exact before_of_next? _h
  · exact before_of_advance? _h'

/-- The next `n` candidates, or all of them if there are fewer, and the scan from there on. -/
def take : Nat → Scan ι → List (Pair ι) × Scan ι
  | 0, s => ([], s)
  | n + 1, s =>
    match s.next with
    | (none, s) => ([], s)
    | (some p, s) =>
      let (ps, s) := take n s
      (p :: ps, s)

/-- All meetings still to be looked at. -/
def remaining : List (ι × ι) :=
  s.block.meetings ++ s.around.flatMap (fun c => meetingsBetween s.here (s.listing c)) ++
    s.ahead.flatMap (meetingsAt s.listing)

/-- All candidates that are left, and the scan at its end. There are no more of them than
    meetings. -/
def finish : List (Pair ι) × Scan ι := s.take (s.remaining.length + 1)

end Scan

end Broadphase
