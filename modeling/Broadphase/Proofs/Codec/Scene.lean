import Broadphase.Codec.Scene
import Broadphase.Proofs.Codec.Laws
import Mathlib

/-!
# Scenes, written and read

Everything that a scene and its tracker are described by is read as it was
written, whatever follows it, and not at all if the end is missing. The other
way round, what is read is written as the bytes that it was read from, but for
scalars that are not numbers, which have the same bits always (`settle32`,
`settle64`).

What holds scalars is therefore compared with the same thing made of the bits of
these scalars, which is written in the same way:

* `shape_map` and the like: a scene of scalars is one of their bits;
* `Lawful.shape` and the like: over lawful scalars, every part of a scene is
  lawful;
* `faithful_scene`: both precisions, with the tags that are read by no codec.

What a float keeps of its bits is a matter of library lemmas on packed floats
(`Float.Model.UnpackedFloat.pack_unpack`). No part of Mathlib brings these along,
so it is imported as a whole.
-/

namespace Broadphase

variable {R S W : Type}

/-! ## Scenes over other scalars -/

namespace Point

/-- A point with other coordinates. -/
def map (f : W → S) (p : Point W) : Point S := ⟨f p.x, f p.y⟩

theorem map_id (p : Point S) : p.map id = p := rfl

theorem map_map (f : W → S) (g : S → R) (p : Point W) : (p.map f).map g = p.map (g ∘ f) := rfl

end Point

namespace Extent

/-- An extent with other lengths. -/
def map (f : W → S) : Extent W → Extent S
  | .disk radius => .disk (f radius)
  | .box halfWidth halfHeight => .box (f halfWidth) (f halfHeight)

theorem map_id (e : Extent S) : e.map id = e := by cases e <;> rfl

theorem map_map (f : W → S) (g : S → R) (e : Extent W) : (e.map f).map g = e.map (g ∘ f) := by
  cases e <;> rfl

end Extent

namespace Shape

/-- A shape with other scalars. -/
def map (f : W → S) (s : Shape W) : Shape S := ⟨s.position.map f, s.extent.map f, s.groups⟩

theorem map_id (s : Shape S) : s.map id = s := by
  rw [map, Point.map_id, Extent.map_id]

theorem map_map (f : W → S) (g : S → R) (s : Shape W) : (s.map f).map g = s.map (g ∘ f) := by
  rw [map, map, Point.map_map, Extent.map_map, map]

end Shape

namespace Bounds

/-- A box with other corners. -/
def map (f : W → S) (b : Bounds W) : Bounds S := ⟨b.lower.map f, b.upper.map f⟩

theorem map_id (b : Bounds S) : b.map id = b := rfl

theorem map_map (f : W → S) (g : S → R) (b : Bounds W) : (b.map f).map g = b.map (g ∘ f) := rfl

end Bounds

namespace Settings

/-- Settings with another cell size. -/
def map (f : W → S) (c : Settings W) : Settings S :=
  ⟨f c.cellSize, c.objectCapacity, c.pairCapacity⟩

theorem map_id (c : Settings S) : c.map id = c := rfl

theorem map_map (f : W → S) (g : S → R) (c : Settings W) : (c.map f).map g = c.map (g ∘ f) := rfl

end Settings

namespace Codec

variable {bits : Codec W} {forth : W → S} {back : S → W}

theorem point_map : point (bits.map forth back) = (point bits).map (.map forth) (.map back) := by
  rw [point, pair_map, map_map, point, map_map]
  rfl

theorem extent_map : extent (bits.map forth back) = (extent bits).map (.map forth) (.map back) := by
  rw [extent, pair_map, either_map, map_map, extent, map_map]
  congr 1
  · funext e
    cases e <;> rfl
  · funext e
    cases e <;> rfl

theorem shape_map : shape (bits.map forth back) = (shape bits).map (.map forth) (.map back) := by
  rw [shape, point_map, extent_map, ← map_id groups, pair_map, pair_map, map_map, shape, map_map]
  rfl

theorem bounds_map : bounds (bits.map forth back) = (bounds bits).map (.map forth) (.map back) := by
  rw [bounds, point_map, pair_map, map_map, bounds, map_map]
  rfl

theorem settings_map :
    settings (bits.map forth back) = (settings bits).map (.map forth) (.map back) := by
  rw [settings, ← map_id (word64.option.pair word64.option), pair_map, map_map, settings,
    map_map]
  rfl

/-! ## Lawful scenes -/

theorem lawful_groups : groups.Lawful := lawful_word32.map (fun _ => rfl) fun _ => rfl

theorem lawful_cell : cell.Lawful :=
  (lawful_int32.pair lawful_int32).map (fun _ => rfl) fun _ => rfl

theorem lawful_region : region.Lawful :=
  (lawful_cell.pair lawful_cell).map (fun _ => rfl) fun _ => rfl

variable (h : bits.Lawful)
include h

theorem Lawful.point : (point bits).Lawful := (h.pair h).map (fun _ => rfl) fun _ => rfl

theorem Lawful.extent : (extent bits).Lawful :=
  (h.either (h.pair h)).map (fun e => by cases e <;> rfl) fun e => by cases e <;> rfl

theorem Lawful.shape : (shape bits).Lawful :=
  (h.point.pair (h.extent.pair lawful_groups)).map (fun _ => rfl) fun _ => rfl

theorem Lawful.bounds : (bounds bits).Lawful :=
  (h.point.pair h.point).map (fun _ => rfl) fun _ => rfl

theorem Lawful.settings : (settings bits).Lawful :=
  (h.pair (lawful_word64.option.pair lawful_word64.option)).map (fun _ => rfl) fun _ => rfl

omit h

/-! ## Bits of machine scalars -/

/-- The bits that are taken for some bits of single precision: for those that stand for no number,
    always the same ones. -/
def settle32 (b : UInt32) : UInt32 :=
  if @Float.Model.UnpackedFloat.isNaNBits .binary32 b.toBitVec then 0x7fc00000 else b

/-- The bits that are taken for some bits of double precision. -/
def settle64 (b : UInt64) : UInt64 :=
  if @Float.Model.UnpackedFloat.isNaNBits .binary64 b.toBitVec then 0x7ff8000000000000 else b

/-- A float of single precision keeps its bits, unless it is no number. -/
theorem toBits_ofBits32 (b : UInt32) : (Float32.ofBits b).toBits = settle32 b := by
  rw [← UInt32.toBitVec_inj, settle32, apply_ite UInt32.toBitVec]
  exact @Float.Model.UnpackedFloat.pack_unpack .binary32 b.toBitVec (by decide)

/-- So does one of double precision. -/
theorem toBits_ofBits64 (b : UInt64) : (Float.ofBits b).toBits = settle64 b := by
  rw [← UInt64.toBitVec_inj, settle64, apply_ite UInt64.toBitVec]
  exact @Float.Model.UnpackedFloat.pack_unpack .binary64 b.toBitVec (by decide)

/-! ## Scenes of machine scalars -/

/-- What is promised of everything that holds scalars, where each of these is written as its bits,
    and `settle` says which bits are taken for which. -/
structure FaithfulScene (scalar : Codec S) (bits : Codec W) (settle : W → W) : Prop where
  extent : (extent scalar).Faithful (SameUpTo (extent bits) (.map settle))
  shape : (shape scalar).Faithful (SameUpTo (shape bits) (.map settle))
  bounds : (bounds scalar).Faithful (SameUpTo (bounds bits) (.map settle))
  settings : (settings scalar).Faithful (SameUpTo (settings bits) (.map settle))
  /-- There are two kinds of extents. -/
  extent_kind : ∀ kind rest, kind ≠ 0 → kind ≠ 1 →
    (Codec.extent scalar).decode (word32.encode kind ++ rest) = none
  shape_kind : ∀ position kind rest, kind ≠ 0 → kind ≠ 1 →
    (Codec.shape scalar).decode ((point bits).encode position ++ (word32.encode kind ++ rest)) = none
  /-- The first capacity is there, or it is not. -/
  objectCapacity_tag : ∀ cellSize present rest, present ≠ 0 → present ≠ 1 →
    (Codec.settings scalar).decode (bits.encode cellSize ++ (byte.encode present ++ rest)) = none
  /-- So is the second, or it is not. -/
  pairCapacity_tag : ∀ cellSize objects present rest, present ≠ 0 → present ≠ 1 →
    (Codec.settings scalar).decode (bits.encode cellSize ++
      (word64.option.encode objects ++ (byte.encode present ++ rest))) = none

/-- If scalars are known by their bits, a scene is read as it was written, as far as the bits are.
    -/
theorem Lawful.faithfulScene_map {settle : W → W} (h : bits.Lawful) (hforth : forth ∘ back = id)
    (hback : back ∘ forth = settle) : FaithfulScene (bits.map forth back) bits settle where
  extent := extent_map ▸ h.extent.faithful_map
    (fun e => by rw [Extent.map_map, hforth, Extent.map_id])
    fun e => by rw [Extent.map_map, hback]
  shape := shape_map ▸ h.shape.faithful_map
    (fun s => by rw [Shape.map_map, hforth, Shape.map_id])
    fun s => by rw [Shape.map_map, hback]
  bounds := bounds_map ▸ h.bounds.faithful_map
    (fun b => by rw [Bounds.map_map, hforth, Bounds.map_id])
    fun b => by rw [Bounds.map_map, hback]
  settings := settings_map ▸ h.settings.faithful_map
    (fun c => by rw [Settings.map_map, hforth, Settings.map_id])
    fun c => by rw [Settings.map_map, hback]
  extent_kind kind rest hzero hone := by
    rw [extent_map, decode_map_eq_none_iff, Codec.extent, decode_map_eq_none_iff]
    exact decode_either_eq_none hzero hone rest
  shape_kind position kind rest hzero hone := by
    rw [shape_map, decode_map_eq_none_iff, Codec.shape, decode_map_eq_none_iff,
      decode_pair_eq_none_iff h.point]
    refine decode_pair_eq_none ?_
    rw [Codec.extent, decode_map_eq_none_iff]
    exact decode_either_eq_none hzero hone rest
  objectCapacity_tag cellSize present rest hzero hone := by
    rw [settings_map, decode_map_eq_none_iff, Codec.settings, decode_map_eq_none_iff,
      decode_pair_eq_none_iff h]
    exact decode_pair_eq_none (decode_option_eq_none hzero hone rest)
  pairCapacity_tag cellSize objects present rest hzero hone := by
    rw [settings_map, decode_map_eq_none_iff, Codec.settings, decode_map_eq_none_iff,
      decode_pair_eq_none_iff h, decode_pair_eq_none_iff lawful_word64.option]
    exact decode_option_eq_none hzero hone rest

/-- At both precisions, everything is read as it was written, and it is written again as it was
    read. -/
theorem faithful_scene :
    groups.Faithful Eq ∧ cell.Faithful Eq ∧ region.Faithful Eq ∧
      FaithfulScene float32 word32 settle32 ∧
      FaithfulScene float word64 settle64 :=
  ⟨lawful_groups.faithful, lawful_cell.faithful, lawful_region.faithful,
    lawful_word32.faithfulScene_map (funext fun _ => Float32.ofBits_toBits _)
      (funext toBits_ofBits32),
    lawful_word64.faithfulScene_map (funext fun _ => Float.ofBits_toBits _)
      (funext toBits_ofBits64)⟩

end Codec

end Broadphase
