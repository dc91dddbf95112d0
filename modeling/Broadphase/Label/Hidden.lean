import Broadphase.Label.Mark
import Broadphase.Label.Unassigned

/-!
# Hidden characters

The characters that show nothing when they stand alone, so that a text holding
one cannot be read off the page:

* *invisible* characters: controls and format characters, line and paragraph
  separators, blanks other than the space, fillers that are drawn as nothing,
  and characters for private use;
* *marks*, which combine with the character before them;
* *unassigned* code points.
-/

namespace Broadphase

/-- The code points of the invisible characters, as inclusive ranges in ascending order. -/
def invisibleRanges : List (Nat × Nat) :=
  [(0x0, 0x1f), (0x7f, 0xa0), (0xad, 0xad), (0x600, 0x605), (0x61c, 0x61c), (0x6dd, 0x6dd),
   (0x70f, 0x70f), (0x890, 0x891), (0x8e2, 0x8e2), (0x115f, 0x1160), (0x1680, 0x1680),
   (0x180e, 0x180e), (0x2000, 0x200f), (0x2028, 0x202f), (0x205f, 0x2064), (0x2066, 0x206f),
   (0x3000, 0x3000), (0x3164, 0x3164), (0xe000, 0xf8ff), (0xfeff, 0xfeff), (0xffa0, 0xffa0),
   (0xfff9, 0xfffb), (0x110bd, 0x110bd), (0x110cd, 0x110cd), (0x13430, 0x1343f),
   (0x1bca0, 0x1bca3), (0x1d173, 0x1d17a), (0xe0001, 0xe0001), (0xe0020, 0xe007f),
   (0xf0000, 0xffffd), (0x100000, 0x10fffd)]

/-- Whether a code point lies in one of the ranges, which are in ascending order:
    only the first range that does not end before it can hold it. -/
def inRanges (n : Nat) : List (Nat × Nat) → Bool
  | [] => false
  | (first, last) :: rest => if n ≤ last then first ≤ n else inRanges n rest

/-- Whether a character shows nothing when it stands alone. -/
def isHidden (c : Char) : Bool :=
  inRanges c.toNat invisibleRanges || inRanges c.toNat markRanges
    || inRanges c.toNat unassignedRanges

end Broadphase
