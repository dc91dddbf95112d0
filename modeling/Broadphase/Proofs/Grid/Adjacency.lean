import Broadphase.Proofs.Grid.Query
import Mathlib.Data.List.TFAE
import Mathlib.Tactic.TFAE

/-!
# Adjacent objects

Whether two objects have cells that are the same or adjacent is found out in three
ways: a scan proposes the pair, one of them is listed among the neighbors of the
other, or its region overlaps that of the other when this is dilated. They have
nothing to do with each other: the scan steps from one occupied cell to the next
ahead of it, if there is one, a list of neighbors is collected from the cells of a
region, and regions are compared by their corners, which do not move beyond the
edges of the grid. But all of them come to the same (`adjacent_run`), since each
decides whether the objects are near each other (`Grid.Near`).
-/

namespace Broadphase.Grid

variable {ι S : Type} [Handle ι] [Scalar S] {g : Grid ι S} {a b : ι} {r r' : Region}

omit [Scalar S] in
theorem near_comm {n : Nat} : g.Near n a b ↔ g.Near n b a := by
  have h {a b : ι} : g.Near n a b → g.Near n b a := by
    rintro ⟨r, r', hr, hr', hnear⟩
    exact ⟨r', r, hr', hr, Region.near_comm.1 hnear⟩
  exact ⟨h, h⟩

/-- The neighbors of an object are the other objects near it. -/
theorem Consistent.mem_neighbors_iff {found : List ι} {radius : UInt32} (h : g.Consistent)
    (hr : g.region? a = some r) (hfound : g.neighbors a radius = .ok found) :
    b ∈ found ↔ b ≠ a ∧ g.Near (Region.growth radius) a b := by
  obtain rfl := Except.ok.inj ((neighbors_eq hr radius).symm.trans hfound)
  rw [List.mem_filter, decide_eq_true_iff, h.mem_inRegion_dilate hr, and_comm]

/-- Objects are near each other if the dilated region of one overlaps that of the other. -/
theorem Consistent.near_growth_iff (h : g.Consistent) (hr : g.region? a = some r)
    (hr' : g.region? b = some r') (margin : UInt32) :
    g.Near (Region.growth margin) a b ↔ (r.dilate margin).Intersects r' := by
  rw [Region.dilate_intersects_iff (h.ordered_of_region? hr) (h.ordered_of_region? hr')]
  constructor
  · rintro ⟨r₀, r₀', hr₀, hr₀', hnear⟩
    obtain rfl := Option.some.inj (hr₀.symm.trans hr)
    obtain rfl := Option.some.inj (hr₀'.symm.trans hr')
    exact hnear
  · intro hnear
    exact ⟨r, r', hr, hr', hnear⟩

/-- A pair is proposed at some time if its objects are near each other, whichever comes first. -/
theorem Consistent.exists_nth_iff {scanner : Scanner ι} {listing : Cell → List ι}
    {order : List Cell} {p : Pair ι} (h : g.Consistent) (hp : Pair.of? a b = some p)
    (horder : order.Perm g.cells.keys) (hlisting : ∀ c, (listing c).Perm (g.cells.members c).ids) :
    (∃ n, (scanner.scanCells listing order).nth n = some p) ↔ g.Near 1 a b := by
  simp only [Scan.nth_eq_getElem?]
  rw [← List.mem_iff_getElem?, h.mem_proposals scanner horder hlisting]
  rcases Pair.of?_eq_some_iff.1 hp with ⟨rfl, rfl⟩ | ⟨rfl, rfl⟩
  · exact Iff.rfl
  · exact near_comm

/-- In every state that a new grid is brought to, a scan proposes two objects at some time if either
    of them is listed among the neighbors of the other within one cell, and if the region of one of
    them overlaps that of the other when this is dilated by one cell, and in no other case. It does
    not matter in which order the scan visits the cells and lists their handles, and what the
    scanner has seen before. -/
theorem adjacent_run {cellSize : S} {listing : Cell → List ι} {order : List Cell}
    (hg : new cellSize = .ok g) (actions : List (Action ι S)) (ha : a ∈ g.run actions)
    (hb : b ∈ g.run actions) (hne : a ≠ b) (scanner : Scanner ι)
    (horder : order.Perm (g.run actions).cells.keys)
    (hlisting : ∀ c, (listing c).Perm ((g.run actions).cells.members c).ids) :
    ∃ p r r' near near', Pair.of? a b = some p ∧
      (g.run actions).region? a = some r ∧ (g.run actions).region? b = some r' ∧
      (g.run actions).neighbors a 1 = .ok near ∧ (g.run actions).neighbors b 1 = .ok near' ∧
      [∃ n, (scanner.scanCells listing order).nth n = some p, b ∈ near, a ∈ near',
        (r.dilate 1).Intersects r'].TFAE := by
  have h : (g.run actions).Consistent := (consistent_of_new hg).run actions
  obtain ⟨p, hp⟩ := Option.isSome_iff_exists.1 (Pair.isSome_of? hne)
  obtain ⟨r, hr⟩ := exists_region?_of_mem ha
  obtain ⟨r', hr'⟩ := exists_region?_of_mem hb
  obtain ⟨near, hnear⟩ : ∃ near, (g.run actions).neighbors a 1 = .ok near :=
    ⟨_, neighbors_eq hr 1⟩
  obtain ⟨near', hnear'⟩ : ∃ near', (g.run actions).neighbors b 1 = .ok near' :=
    ⟨_, neighbors_eq hr' 1⟩
  refine ⟨p, r, r', near, near', hp, hr, hr', hnear, hnear', ?_⟩
  -- Each of the four says that the objects are near each other.
  have hscan : (∃ n, (scanner.scanCells listing order).nth n = some p) ↔
      (g.run actions).Near 1 a b := h.exists_nth_iff hp horder hlisting
  have hmem : b ∈ near ↔ (g.run actions).Near 1 a b :=
    (h.mem_neighbors_iff hr hnear).trans (and_iff_right hne.symm)
  have hmem' : a ∈ near' ↔ (g.run actions).Near 1 a b :=
    ((h.mem_neighbors_iff hr' hnear').trans (and_iff_right hne)).trans near_comm
  have hregions : (r.dilate 1).Intersects r' ↔ (g.run actions).Near 1 a b :=
    (h.near_growth_iff hr hr' 1).symm
  tfae_have 1 ↔ 2 := hscan.trans hmem.symm
  tfae_have 2 ↔ 3 := hmem.trans hmem'.symm
  tfae_have 3 ↔ 4 := hmem'.trans hregions.symm
  tfae_finish

/-- An object in the last cells of the last row, one in the row before it, and one in the opposite
    corner of the grid. The second one is the neighbor of the first, and the third is not. -/
theorem adjacent_run_edge :
    let actions : List (Action UInt32 ℚ) := [
      .insert 1 { position := ⟨2147483646, 2147483647⟩, extent := .box 1 0 },
      .insert 2 { position := ⟨2147483644, 2147483646⟩, extent := .point },
      .insert 3 { position := ⟨-2147483648, -2147483648⟩, extent := .point }]
    let g : Grid UInt32 ℚ := (empty 1).run actions
    let scan :=
      Scanner.new.scanCells (fun c => (g.cells.members c).ids.reverse) g.cells.keys.reverse
    new (1 : ℚ) = .ok (empty 1 : Grid UInt32 ℚ) ∧ 1 ∈ g ∧ 2 ∈ g ∧ 3 ∈ g ∧
      g.neighbors 1 1 = .ok [2] ∧ (∃ n, scan.nth n = some ⟨1, 2, rfl⟩) ∧
      ¬ ∃ n, scan.nth n = some ⟨1, 3, rfl⟩ := by
  intro actions g scan
  have hg : new (1 : ℚ) = .ok (empty 1 : Grid UInt32 ℚ) := new_exact one_pos
  have h₁ : 1 ∈ g := by decide +kernel
  have h₂ : 2 ∈ g := by decide +kernel
  have h₃ : 3 ∈ g := by decide +kernel
  have hneighbors : g.neighbors 1 1 = .ok [2] := by decide +kernel
  have hscan {b : UInt32} (hb : b ∈ g) (hne : 1 ≠ b) {p : Pair UInt32}
      (hp : Pair.of? 1 b = some p) : (∃ n, scan.nth n = some p) ↔ b ∈ [2] := by
    obtain ⟨p', r, r', near, near', hp', -, -, hnear, -, htfae⟩ := adjacent_run hg actions h₁ hb hne
      .new (List.reverse_perm _) fun _ => List.reverse_perm _
    obtain rfl := Option.some.inj (hp.symm.trans hp')
    obtain rfl := Except.ok.inj (hneighbors.symm.trans hnear)
    exact htfae.out 0 1
  exact ⟨hg, h₁, h₂, h₃, hneighbors, (hscan h₂ (by decide) rfl).2 (by decide),
    (hscan h₃ (by decide) rfl).not.2 (by decide)⟩

end Broadphase.Grid
