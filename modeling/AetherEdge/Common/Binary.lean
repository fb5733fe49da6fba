import AetherEdge.Common.Basic

/-!
# Fixed-width integers and checksums in byte buffers

* `leBytes`, `ofLeBytes`: `to_le_bytes` and `from_le_bytes` at any width, with
  `ofLeBytes_leBytes`;
* `Endian`: the byte order of a machine, `to_ne_bytes` and `from_ne_bytes`;
* `bytesAt`: a field of a buffer, with its place in a concatenation;
* `Grows`: byte streams to which bytes are added at the end;
* `crc32`: the bitwise CRC-32 (reflected polynomial `0xedb88320`).
-/

namespace AetherEdge

open List

/-- The `width` low bytes of `n`, least significant first. -/
def leBytes : ℕ → ℕ → Bytes
  | 0, _ => []
  | width + 1, n => UInt8.ofNat n :: leBytes width (n / 256)

/-- The number whose little-endian bytes are given. -/
def ofLeBytes : Bytes → ℕ
  | [] => 0
  | byte :: bytes => byte.toNat + 256 * ofLeBytes bytes

@[simp] theorem length_leBytes (width n : ℕ) : (leBytes width n).length = width := by
  induction width generalizing n with
  | zero => rfl
  | succ width ih => rw [leBytes, length_cons, ih]

theorem ofLeBytes_leBytes {width n : ℕ} (h : n < 256 ^ width) :
    ofLeBytes (leBytes width n) = n := by
  induction width generalizing n with
  | zero =>
    have : n = 0 := by simpa using h
    rw [this]; rfl
  | succ width ih =>
    have hdiv : n / 256 < 256 ^ width := by
      rw [pow_succ'] at h
      exact Nat.div_lt_of_lt_mul h
    rw [leBytes, ofLeBytes, ih hdiv, UInt8.toNat_ofNat']
    have hpow : (2 : ℕ) ^ 8 = 256 := by norm_num
    rw [hpow]
    omega

/-! ## Byte orders -/

/-- The byte order of a machine. -/
inductive Endian where
  | little
  | big
  deriving DecidableEq, Repr

namespace Endian

/-- `to_ne_bytes`. -/
def encode (endian : Endian) (width n : ℕ) : Bytes :=
  match endian with
  | .little => leBytes width n
  | .big => (leBytes width n).reverse

/-- `from_ne_bytes`. -/
def decode (endian : Endian) (bytes : Bytes) : ℕ :=
  match endian with
  | .little => ofLeBytes bytes
  | .big => ofLeBytes bytes.reverse

@[simp] theorem length_encode (endian : Endian) (width n : ℕ) :
    (endian.encode width n).length = width := by
  cases endian with
  | little => exact length_leBytes width n
  | big => rw [encode, length_reverse, length_leBytes]

theorem decode_encode (endian : Endian) {width n : ℕ} (h : n < 256 ^ width) :
    endian.decode (endian.encode width n) = n := by
  cases endian with
  | little => exact ofLeBytes_leBytes h
  | big => rw [encode, decode, reverse_reverse, ofLeBytes_leBytes h]

end Endian

/-! ## Fields -/

/-- `bytes[offset..offset + width]`. -/
def bytesAt (bytes : Bytes) (offset width : ℕ) : Bytes := (bytes.drop offset).take width

theorem bytesAt_append_left {first : Bytes} {offset width : ℕ} (h : offset + width ≤ first.length)
    (second : Bytes) : bytesAt (first ++ second) offset width = bytesAt first offset width := by
  unfold bytesAt
  rw [drop_append_of_le_length (by omega), take_append_of_le_length]
  rw [length_drop]
  omega

theorem bytesAt_append_right {first : Bytes} {offset : ℕ} (h : first.length ≤ offset) (width : ℕ)
    (second : Bytes) :
    bytesAt (first ++ second) offset width = bytesAt second (offset - first.length) width := by
  unfold bytesAt
  rw [drop_append, drop_eq_nil_of_le h, nil_append]

theorem bytesAt_eq_self {bytes : Bytes} {width : ℕ} (h : bytes.length = width) :
    bytesAt bytes 0 width = bytes := by
  rw [bytesAt, drop_zero, take_of_length_le (Nat.le_of_eq h)]

@[simp] theorem bytesAt_length (bytes : Bytes) : bytesAt bytes 0 bytes.length = bytes := by
  simp [bytesAt]

/-! ## Streams -/

/-- The streams of `after` are those of `before` with more bytes at the end, and maybe some new
    ones. -/
def Grows (before after : List Bytes) : Prop :=
  ∀ (i : ℕ) (bytes : Bytes), before[i]? = some bytes → ∃ more, after[i]? = some (bytes ++ more)

namespace Grows

theorem refl (streams : List Bytes) : Grows streams streams :=
  fun _ bytes h => ⟨[], by rw [append_nil, h]⟩

theorem append (streams more : List Bytes) : Grows streams (streams ++ more) := by
  intro i bytes h
  refine ⟨[], ?_⟩
  rw [getElem?_append_left (List.getElem?_eq_some_iff.1 h).1, append_nil, h]

theorem modify {before after : List Bytes} (h : Grows before after) (stream : ℕ) (chunk : Bytes) :
    Grows before (after.modify stream (· ++ chunk)) := by
  intro i bytes hbs
  obtain ⟨more, hmore⟩ := h i bytes hbs
  rw [getElem?_modify, hmore]
  by_cases hi : stream = i
  · exact ⟨more ++ chunk, by simp [hi]⟩
  · exact ⟨more, by simp [hi]⟩

end Grows

/-! ## CRC-32 -/

/-- One bit of the division. -/
def crc32Bit (crc : UInt32) : UInt32 := (crc >>> 1) ^^^ (0xedb88320 &&& (0 - (crc &&& 1)))

/-- One byte of the division. -/
def crc32Byte (crc : UInt32) (byte : UInt8) : UInt32 :=
  Nat.iterate crc32Bit 8 (crc ^^^ byte.toUInt32)

/-- The CRC-32 checksum of a buffer. -/
def crc32 (bytes : Bytes) : UInt32 := ~~~(bytes.foldl crc32Byte 0xffffffff)

/-- The standard check value. -/
example : crc32 (strBytes "123456789") = 0xcbf43926 := by decide +kernel

theorem ofLeBytes_checksum (sum : UInt32) : ofLeBytes (leBytes 4 sum.toNat) = sum.toNat :=
  ofLeBytes_leBytes (lt_of_lt_of_eq sum.toNat_lt (by norm_num))

end AetherEdge
