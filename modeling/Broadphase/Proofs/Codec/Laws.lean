import Mathlib.Algebra.Group.Nat.Defs
import Mathlib.Data.List.Basic
import Broadphase.Codec

/-!
# Laws of codecs

A codec is *lawful* if it reads exactly what it writes: some bytes are read as a
value exactly if they begin with those that are written for it
(`Codec.Lawful`). What follows a value is then of no account to it, and nothing
is read that breaks off early (`Lawful.decode_truncated`).

Words are lawful, and so is whatever is put together from lawful codecs:

* `readLittleEndian_eq_some_iff`: the bytes of a number, the lowest first;
* `Lawful.map`, `Lawful.pair`, `Lawful.either`, `Lawful.option`: the combinators.

A codec by other values (`Codec.map`), not all of which are told apart, is lawful
only up to that. What it reads may have been written in another way, but what it
writes it reads (`Lawful.faithful_map`).
-/

namespace Broadphase.Codec

variable {α β γ δ : Type} {c : Codec α} {d : Codec β}

/-- Some bytes are read as a value exactly if they begin with those that are written for it. -/
def Lawful (c : Codec α) : Prop :=
  ∀ bytes v rest, c.decode bytes = some (v, rest) ↔ bytes = c.encode v ++ rest

/-- What a codec promises, if the bytes that are read as a value need only be `like` those that are
    written for it. -/
structure Faithful (like : List UInt8 → List UInt8 → Prop) (c : Codec α) : Prop where
  /-- What is written is read, whatever follows it. -/
  decode_encode : ∀ v rest, c.decode (c.encode v ++ rest) = some (v, rest)
  /-- Nothing is read that breaks off early. -/
  decode_truncated : ∀ v bytes, bytes <+: c.encode v → bytes ≠ c.encode v → c.decode bytes = none
  /-- What is read is like what is written. -/
  encode_decode : ∀ bytes v rest, c.decode bytes = some (v, rest) →
    ∃ read, bytes = read ++ rest ∧ like read (c.encode v)

/-- Some bytes are those of a value, and others those of the value that is taken instead. -/
def SameUpTo (c : Codec α) (settle : α → α) (bytes bytes' : List UInt8) : Prop :=
  ∃ v, bytes = c.encode v ∧ bytes' = c.encode (settle v)

@[ext]
theorem ext {c c' : Codec α} (hencode : ∀ v, c.encode v = c'.encode v)
    (hdecode : ∀ bytes, c.decode bytes = c'.decode bytes) : c = c' :=
  (mk.injEq ..).mpr ⟨funext hencode, funext hdecode⟩

/-! ## Lawful codecs -/

theorem Lawful.decode_encode (h : c.Lawful) (v : α) (rest : List UInt8) :
    c.decode (c.encode v ++ rest) = some (v, rest) := (h _ _ _).2 rfl

/-- If the end is missing, nothing is read: the whole would have to be read from the same beginning.
    -/
theorem Lawful.decode_truncated (h : c.Lawful) {v : α} {bytes : List UInt8}
    (hbytes : bytes <+: c.encode v) (hne : bytes ≠ c.encode v) : c.decode bytes = none := by
  refine Option.eq_none_iff_forall_ne_some.2 fun (v', rest) hdecode => hne ?_
  obtain ⟨more, hmore⟩ := hbytes
  -- With the bytes that are missing, the same value would be read, and these would be left over.
  have hlonger : c.decode (bytes ++ more) = some (v', rest ++ more) := by
    rw [h, (h _ _ _).1 hdecode, List.append_assoc]
  have hwhole : c.decode (bytes ++ more) = some (v, []) := by
    rw [h, hmore, List.append_nil]
  obtain ⟨-, hnil⟩ := Prod.mk.inj (Option.some.inj (hlonger.symm.trans hwhole))
  rw [← hmore, (List.append_eq_nil_iff.1 hnil).2, List.append_nil]

/-- A lawful codec reads everything as it was written, and nothing else. -/
theorem Lawful.faithful (h : c.Lawful) : c.Faithful Eq where
  decode_encode := h.decode_encode
  decode_truncated _ _ := h.decode_truncated
  encode_decode bytes v rest hdecode := ⟨c.encode v, (h bytes v rest).1 hdecode, rfl⟩

/-! ## Combinators -/

theorem encode_map (forth : α → β) (back : β → α) (b : β) :
    (c.map forth back).encode b = c.encode (back b) := rfl

/-- What is read through a change of representation is read first and changed then. -/
theorem decode_map_eq_some_iff {forth : α → β} {back : β → α} {bytes rest : List UInt8} {b : β} :
    (c.map forth back).decode bytes = some (b, rest) ↔
      ∃ a, c.decode bytes = some (a, rest) ∧ forth a = b := by
  rw [map, Option.map_eq_some_iff]
  constructor
  · rintro ⟨⟨a, rest'⟩, hdecode, hb⟩
    obtain ⟨rfl, rfl⟩ := Prod.mk.inj hb
    exact ⟨a, hdecode, rfl⟩
  · rintro ⟨a, hdecode, rfl⟩
    exact ⟨(a, rest), hdecode, rfl⟩

theorem decode_map_eq_none_iff {forth : α → β} {back : β → α} {bytes : List UInt8} :
    (c.map forth back).decode bytes = none ↔ c.decode bytes = none := Option.map_eq_none_iff

/-- A change of representation that can be undone keeps a codec lawful. -/
theorem Lawful.map (h : c.Lawful) {forth : α → β} {back : β → α}
    (hforth : ∀ b, forth (back b) = b) (hback : ∀ a, back (forth a) = a) :
    (c.map forth back).Lawful := by
  intro bytes b rest
  rw [decode_map_eq_some_iff]
  constructor
  · rintro ⟨a, hdecode, rfl⟩
    rw [(h _ _ _).1 hdecode, encode_map, hback]
  · rintro rfl
    exact ⟨back b, h.decode_encode _ _, hforth b⟩

/-- Values that need not be told apart by others that stand for them. -/
theorem Lawful.faithful_map (h : c.Lawful) {forth : α → β} {back : β → α} {settle : α → α}
    (hforth : ∀ b, forth (back b) = b) (hback : ∀ a, back (forth a) = settle a) :
    (c.map forth back).Faithful (SameUpTo c settle) where
  decode_encode b rest := decode_map_eq_some_iff.2 ⟨back b, h.decode_encode _ _, hforth b⟩
  decode_truncated b bytes hbytes hne := decode_map_eq_none_iff.2 (h.decode_truncated hbytes hne)
  encode_decode bytes b rest hdecode := by
    obtain ⟨a, ha, rfl⟩ := decode_map_eq_some_iff.1 hdecode
    exact ⟨c.encode a, (h _ _ _).1 ha, a, rfl, congrArg c.encode (hback a)⟩

/-- A pair is read one after the other. -/
theorem decode_pair_eq_some_iff {bytes rest : List UInt8} {a : α} {b : β} :
    (c.pair d).decode bytes = some ((a, b), rest) ↔
      ∃ mid, c.decode bytes = some (a, mid) ∧ d.decode mid = some (b, rest) := by
  rw [pair]
  constructor
  · intro h
    obtain ⟨⟨a', mid⟩, hc, h⟩ := Option.bind_eq_some_iff.1 h
    obtain ⟨⟨b', rest'⟩, hd, h⟩ := Option.bind_eq_some_iff.1 h
    obtain ⟨hab, rfl⟩ := Prod.mk.inj (Option.some.inj h)
    obtain ⟨rfl, rfl⟩ := Prod.mk.inj hab
    exact ⟨mid, hc, hd⟩
  · rintro ⟨mid, hc, hd⟩
    exact Option.bind_eq_some_iff.2 ⟨_, hc, Option.bind_eq_some_iff.2 ⟨_, hd, rfl⟩⟩

theorem decode_pair_eq_none {bytes : List UInt8} (h : c.decode bytes = none) :
    (c.pair d).decode bytes = none := by
  simp only [pair, h, Option.bind_eq_bind, Option.bind_none]

/-- If the first part of a pair is there, it is for the second part to be read. -/
theorem decode_pair_eq_none_iff (hc : c.Lawful) {a : α} {bytes : List UInt8} :
    (c.pair d).decode (c.encode a ++ bytes) = none ↔ d.decode bytes = none := by
  simp only [pair, hc.decode_encode, Option.bind_eq_bind, Option.bind_some]
  cases d.decode bytes with
  | none => exact iff_of_true rfl rfl
  | some _ => exact iff_of_false nofun nofun

/-- Pairs of lawful parts are lawful. -/
theorem Lawful.pair (hc : c.Lawful) (hd : d.Lawful) : (c.pair d).Lawful := by
  rintro bytes ⟨a, b⟩ rest
  rw [decode_pair_eq_some_iff, Codec.pair, List.append_assoc]
  constructor
  · rintro ⟨mid, ha, hb⟩
    rw [(hc _ _ _).1 ha, (hd _ _ _).1 hb]
  · rintro rfl
    exact ⟨_, hc.decode_encode _ _, hd.decode_encode _ _⟩

/-! ## Words -/

/-- A number is read from as many bytes as it has, and it is smaller than all that need more. -/
theorem readLittleEndian_eq_some_iff {width n : Nat} {bytes rest : List UInt8} :
    readLittleEndian width bytes = some (n, rest) ↔
      n < 256 ^ width ∧ bytes = littleEndian width n ++ rest := by
  induction width generalizing n bytes with
  | zero =>
    rw [readLittleEndian, littleEndian, Option.some.injEq, Prod.mk.injEq, List.nil_append,
      Nat.pow_zero, Nat.lt_one_iff, eq_comm (a := 0)]
  | succ width ih =>
    rw [littleEndian, Nat.pow_succ]
    cases bytes with
    | nil => exact iff_of_false nofun fun h => absurd h.2 nofun
    | cons byte bytes =>
      rw [readLittleEndian, List.cons_append, List.cons.injEq]
      constructor
      · intro h
        obtain ⟨⟨high, rest'⟩, hhigh, h⟩ := Option.bind_eq_some_iff.1 h
        obtain ⟨rfl, rfl⟩ := Prod.mk.inj (Option.some.inj h)
        obtain ⟨hlt, rfl⟩ := ih.1 hhigh
        have hbyte := byte.toNat_lt
        have hlow : UInt8.ofNat (byte.toNat + 256 * high) = byte := by
          rw [← UInt8.toNat_inj, UInt8.toNat_ofNat']
          omega
        have hrest : (byte.toNat + 256 * high) / 256 = high := by omega
        exact ⟨by omega, hlow.symm, by rw [hrest]⟩
      · rintro ⟨hlt, rfl, rfl⟩
        have hhigh : n / 256 < 256 ^ width := Nat.div_lt_of_lt_mul (by rwa [Nat.mul_comm])
        rw [ih.2 ⟨hhigh, rfl⟩, UInt8.toNat_ofNat']
        exact congrArg (fun n => some (n, rest)) (Nat.mod_add_div n 256)

/-- A type of words, each of which is a number of so many bytes. -/
theorem lawful_word {width : Nat} {ofNat : Nat → α} {toNat : α → Nat}
    (hlt : ∀ a, toNat a < 256 ^ width) (hofNat : ∀ a, ofNat (toNat a) = a)
    (htoNat : ∀ n < 256 ^ width, toNat (ofNat n) = n) :
    ((word width).map ofNat toNat).Lawful := by
  intro bytes a rest
  rw [decode_map_eq_some_iff]
  constructor
  · rintro ⟨n, hn, rfl⟩
    obtain ⟨hlow, rfl⟩ := readLittleEndian_eq_some_iff.1 hn
    rw [encode_map, htoNat n hlow]
    rfl
  · rintro rfl
    exact ⟨toNat a, readLittleEndian_eq_some_iff.2 ⟨hlt a, rfl⟩, hofNat a⟩

theorem lawful_byte : byte.Lawful :=
  lawful_word UInt8.toNat_lt (fun _ => UInt8.ofNat_toNat) fun _ => UInt8.toNat_ofNat_of_lt

theorem lawful_word32 : word32.Lawful :=
  lawful_word UInt32.toNat_lt (fun _ => UInt32.ofNat_toNat) fun _ => UInt32.toNat_ofNat_of_lt

theorem lawful_word64 : word64.Lawful :=
  lawful_word UInt64.toNat_lt (fun _ => UInt64.ofNat_toNat) fun _ => UInt64.toNat_ofNat_of_lt

theorem lawful_int32 : int32.Lawful :=
  lawful_word32.map Int32.toInt32_toUInt32 UInt32.toUInt32_toInt32

/-! ## Choices -/

/-- The kind is read first, and decides how to go on. -/
theorem decode_either_eq_some_iff {bytes rest : List UInt8} {v : α ⊕ β} :
    (c.either d).decode bytes = some (v, rest) ↔ ∃ kind mid, bytes = word32.encode kind ++ mid ∧
      ((kind = 0 ∧ ∃ a, c.decode mid = some (a, rest) ∧ v = .inl a) ∨
        (kind = 1 ∧ ∃ b, d.decode mid = some (b, rest) ∧ v = .inr b)) := by
  rw [either]
  constructor
  · intro h
    obtain ⟨⟨kind, mid⟩, hkind, h⟩ := Option.bind_eq_some_iff.1 h
    refine ⟨kind, mid, (lawful_word32 _ _ _).1 hkind, ?_⟩
    dsimp only at h
    split at h
    case isTrue hzero =>
      obtain ⟨⟨a, rest'⟩, ha, h⟩ := Option.map_eq_some_iff.1 h
      obtain ⟨rfl, rfl⟩ := Prod.mk.inj h
      exact .inl ⟨hzero, a, ha, rfl⟩
    case isFalse =>
      simp only [Option.ite_none_right_eq_some, Option.map_eq_some_iff] at h
      obtain ⟨hone, ⟨b, rest'⟩, hb, h⟩ := h
      obtain ⟨rfl, rfl⟩ := Prod.mk.inj h
      exact .inr ⟨hone, b, hb, rfl⟩
  · rintro ⟨kind, mid, rfl, h⟩
    simp only [Option.bind_eq_bind, Option.bind_eq_some_iff]
    refine ⟨_, lawful_word32.decode_encode _ _, ?_⟩
    rcases h with ⟨rfl, a, ha, rfl⟩ | ⟨rfl, b, hb, rfl⟩
    · exact (if_pos rfl).trans (Option.map_eq_some_iff.2 ⟨_, ha, rfl⟩)
    · refine (if_neg (by decide : (1 : UInt32) ≠ 0)).trans ((if_pos rfl).trans ?_)
      exact Option.map_eq_some_iff.2 ⟨_, hb, rfl⟩

/-- There are only two kinds. -/
theorem decode_either_eq_none {kind : UInt32} (hzero : kind ≠ 0) (hone : kind ≠ 1)
    (bytes : List UInt8) : (c.either d).decode (word32.encode kind ++ bytes) = none := by
  simp only [either, lawful_word32.decode_encode, Option.bind_eq_bind, Option.bind_some,
    if_neg hzero, if_neg hone]

/-- A choice between two lawful codecs is lawful. -/
theorem Lawful.either (hc : c.Lawful) (hd : d.Lawful) : (c.either d).Lawful := by
  intro bytes v rest
  rw [decode_either_eq_some_iff]
  constructor
  · rintro ⟨kind, mid, rfl, ⟨rfl, a, ha, rfl⟩ | ⟨rfl, b, hb, rfl⟩⟩
    · rw [(hc _ _ _).1 ha, Codec.either, List.append_assoc]
    · rw [(hd _ _ _).1 hb, Codec.either, List.append_assoc]
  · rintro rfl
    cases v with
    | inl a => exact ⟨0, _, List.append_assoc .., .inl ⟨rfl, a, hc.decode_encode _ _, rfl⟩⟩
    | inr b => exact ⟨1, _, List.append_assoc .., .inr ⟨rfl, b, hd.decode_encode _ _, rfl⟩⟩

/-- The tag is read first, and says whether there is anything else. -/
theorem decode_option_eq_some_iff {bytes rest : List UInt8} {v : Option α} :
    c.option.decode bytes = some (v, rest) ↔ ∃ present mid, bytes = byte.encode present ++ mid ∧
      ((present = 0 ∧ mid = rest ∧ v = none) ∨
        (present = 1 ∧ ∃ a, c.decode mid = some (a, rest) ∧ v = some a)) := by
  rw [option]
  constructor
  · intro h
    obtain ⟨⟨present, mid⟩, hpresent, h⟩ := Option.bind_eq_some_iff.1 h
    refine ⟨present, mid, (lawful_byte _ _ _).1 hpresent, ?_⟩
    dsimp only at h
    split at h
    case isTrue hzero =>
      obtain ⟨rfl, rfl⟩ := Prod.mk.inj (Option.some.inj h)
      exact .inl ⟨hzero, rfl, rfl⟩
    case isFalse =>
      simp only [Option.ite_none_right_eq_some, Option.map_eq_some_iff] at h
      obtain ⟨hone, ⟨a, rest'⟩, ha, h⟩ := h
      obtain ⟨rfl, rfl⟩ := Prod.mk.inj h
      exact .inr ⟨hone, a, ha, rfl⟩
  · rintro ⟨present, mid, rfl, h⟩
    simp only [Option.bind_eq_bind, Option.bind_eq_some_iff]
    refine ⟨_, lawful_byte.decode_encode _ _, ?_⟩
    rcases h with ⟨rfl, rfl, rfl⟩ | ⟨rfl, a, ha, rfl⟩
    · exact if_pos rfl
    · refine (if_neg (by decide : (1 : UInt8) ≠ 0)).trans ((if_pos rfl).trans ?_)
      exact Option.map_eq_some_iff.2 ⟨_, ha, rfl⟩

/-- There are only two tags. -/
theorem decode_option_eq_none {present : UInt8} (hzero : present ≠ 0) (hone : present ≠ 1)
    (bytes : List UInt8) : c.option.decode (byte.encode present ++ bytes) = none := by
  simp only [option, lawful_byte.decode_encode, Option.bind_eq_bind, Option.bind_some,
    if_neg hzero, if_neg hone]

/-- What may be missing is lawful if it is so when it is there. -/
theorem Lawful.option (hc : c.Lawful) : c.option.Lawful := by
  intro bytes v rest
  rw [decode_option_eq_some_iff]
  constructor
  · rintro ⟨present, mid, rfl, ⟨rfl, rfl, rfl⟩ | ⟨rfl, a, ha, rfl⟩⟩
    · rfl
    · rw [(hc _ _ _).1 ha, Codec.option, List.append_assoc]
  · rintro rfl
    cases v with
    | none => exact ⟨0, rest, rfl, .inl ⟨rfl, rfl, rfl⟩⟩
    | some a => exact ⟨1, _, List.append_assoc .., .inr ⟨rfl, a, hc.decode_encode _ _, rfl⟩⟩

/-! ## Other values for the parts

A codec that is put together from codecs by other values is itself one by other
values. -/

theorem map_id (c : Codec α) : c.map id id = c :=
  ext (fun _ => rfl) fun _ => Option.map_id'

theorem map_map (c : Codec α) (f : α → β) (g : β → α) (f' : β → γ) (g' : γ → β) :
    (c.map f g).map f' g' = c.map (f' ∘ f) (g ∘ g') :=
  ext (fun _ => rfl) fun _ => Option.map_map ..

theorem pair_map (c : Codec α) (d : Codec β) (f : α → γ) (g : γ → α) (f' : β → δ) (g' : δ → β) :
    (c.map f g).pair (d.map f' g') = (c.pair d).map (Prod.map f f') (Prod.map g g') := by
  refine ext (fun _ => rfl) fun bytes => ?_
  simp only [pair, map, Option.bind_eq_bind]
  rcases c.decode bytes with _ | ⟨a, mid⟩
  · rfl
  simp only [Option.map_some, Option.bind_some]
  rcases d.decode mid with _ | ⟨b, rest⟩
  · rfl
  · rfl

theorem either_map (c : Codec α) (d : Codec β) (f : α → γ) (g : γ → α) (f' : β → δ) (g' : δ → β) :
    (c.map f g).either (d.map f' g') = (c.either d).map (Sum.map f f') (Sum.map g g') := by
  refine ext (fun v => by cases v <;> rfl) fun bytes => ?_
  simp only [either, map, Option.bind_eq_bind]
  rcases word32.decode bytes with _ | ⟨kind, mid⟩
  · rfl
  simp only [Option.bind_some]
  split
  · rw [Option.map_map, Option.map_map]
    rfl
  split
  · rw [Option.map_map, Option.map_map]
    rfl
  · rfl

end Broadphase.Codec
