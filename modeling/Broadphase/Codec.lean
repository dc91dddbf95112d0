/-!
# Binary codecs

A codec writes the values of a type as bytes and reads them back from the front
of any bytes that follow. Codecs are put together from those of the parts:

* a word is written in a fixed number of bytes, the lowest first;
* the parts of a pair are written one after the other;
* a value of one of two kinds follows a 32-bit word that tells the kind, `0` or
  `1`;
* an optional value is a byte `0`, or a byte `1` and the value.

Reading fails if the bytes end too early or a tag is not one of these.
-/

namespace Broadphase

/-- How the values of a type are written as bytes and read back. -/
structure Codec (α : Type) where
  /-- The bytes of a value. -/
  encode : α → List UInt8
  /-- The value at the front of some bytes, and the bytes after it. -/
  decode : List UInt8 → Option (α × List UInt8)

namespace Codec

variable {α β : Type}

/-! ## Combinators -/

/-- The values of a type that stand for those of another. -/
def map (c : Codec α) (forth : α → β) (back : β → α) : Codec β where
  encode b := c.encode (back b)
  decode bytes := (c.decode bytes).map fun (a, rest) => (forth a, rest)

/-- A value after another. -/
def pair (c : Codec α) (d : Codec β) : Codec (α × β) where
  encode v := c.encode v.1 ++ d.encode v.2
  decode bytes := do
    let (a, rest) ← c.decode bytes
    let (b, rest) ← d.decode rest
    return ((a, b), rest)

/-! ## Words -/

/-- The lowest `width` bytes of a number, the lowest first. -/
def littleEndian : (width : Nat) → Nat → List UInt8
  | 0, _ => []
  | width + 1, n => .ofNat n :: littleEndian width (n / 256)

/-- The number that `width` bytes stand for, the lowest first. -/
def readLittleEndian : (width : Nat) → List UInt8 → Option (Nat × List UInt8)
  | 0, bytes => some (0, bytes)
  | _ + 1, [] => none
  | width + 1, byte :: bytes => do
    let (high, rest) ← readLittleEndian width bytes
    return (byte.toNat + 256 * high, rest)

/-- Numbers below `256 ^ width`. -/
def word (width : Nat) : Codec Nat := ⟨littleEndian width, readLittleEndian width⟩

/-- One byte. -/
def byte : Codec UInt8 := (word 1).map .ofNat UInt8.toNat

/-- 32-bit words. -/
def word32 : Codec UInt32 := (word 4).map .ofNat UInt32.toNat

/-- 64-bit words. -/
def word64 : Codec UInt64 := (word 8).map .ofNat UInt64.toNat

/-- Signed 32-bit words, in two's complement. -/
def int32 : Codec Int32 := word32.map UInt32.toInt32 Int32.toUInt32

/-- Scalars of single precision, by their bits. -/
def float32 : Codec Float32 := word32.map .ofBits Float32.toBits

/-- Scalars of double precision, by their bits. -/
def float : Codec Float := word64.map .ofBits Float.toBits

/-! ## Choices -/

/-- A value of one of two types, after a word that tells which. -/
def either (c : Codec α) (d : Codec β) : Codec (α ⊕ β) where
  encode
    | .inl a => word32.encode 0 ++ c.encode a
    | .inr b => word32.encode 1 ++ d.encode b
  decode bytes := do
    let (kind, rest) ← word32.decode bytes
    if kind = 0 then (c.decode rest).map fun (a, rest) => (.inl a, rest)
    else if kind = 1 then (d.decode rest).map fun (b, rest) => (.inr b, rest)
    else none

/-- A value or none, after a byte that tells which. -/
def option (c : Codec α) : Codec (Option α) where
  encode
    | none => byte.encode 0
    | some a => byte.encode 1 ++ c.encode a
  decode bytes := do
    let (present, rest) ← byte.decode bytes
    if present = 0 then some (none, rest)
    else if present = 1 then (c.decode rest).map fun (a, rest) => (some a, rest)
    else none

end Codec

end Broadphase
