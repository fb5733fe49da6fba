import AetherEdge.Common.Binary
import AetherEdge.Common.Binary64
import AetherEdge.Common.LastEntry
import AetherEdge.Io.Iec104

/-!
# General interrogations of an IEC 101 station

Model of `general_interrogation` and `project_points`
(`services/io/src/protocols/adapters/iec101.rs`), on frames whose link layer and ASDU header have
been checked. A point takes a value of another type when its own is missing and some point is mapped
without a type on its address: the lookup asks whether there is such a point, not whether it is
itself one. `exact_iff` says when it does not happen.
-/

namespace AetherEdge.Io.Iec101

open Domain (PointQuality)

/-- Lines 182-186. -/
structure Iec101PointMapping where
  ioa : ℕ
  typeId : UInt8
  deriving DecidableEq

/-- An ASDU behind its header. -/
structure Asdu where
  typeId : UInt8
  count : ℕ
  sequence : Bool
  cause : UInt8
  objects : Bytes

/-- A frame; those of the link alone carry no ASDU. -/
inductive Frame where
  | link
  | asdu (asdu : Asdu)

/-- An entry of the map of values, under its address and type. -/
abbrev Entry := (ℕ × UInt8) × (F64 × PointQuality)

/-! ## Values -/

/-- `measurement_value_length` (lines 811-823). -/
def measurementValueLength (typeId : UInt8) : Option ℕ :=
  match typeId.toNat with
  | 1 | 3 => some 1
  | 5 => some 2
  | 7 | 13 | 15 => some 5
  | 9 | 11 => some 3
  | 30 | 31 => some 8
  | 32 => some 9
  | 33 | 36 | 37 => some 12
  | 34 | 35 => some 10
  | _ => none

/-- `f64::from` of an integer. -/
def ofInt (n : ℤ) : F64 := if n < 0 then (F64.ofNat n.natAbs).neg else F64.ofNat n.natAbs

/-- `f64::from` of the `f32` with these bits. -/
def ofF32 (bits : ℕ) : F64 :=
  let negative := decide (2 ^ 31 ≤ bits)
  let exponent := bits / 2 ^ 23 % 256
  let fraction := bits % 2 ^ 23
  if exponent = 255 then .ofPattern negative (F64.infinityPattern + fraction * 2 ^ 29)
  else if exponent = 0 then .ofRatio negative (fraction * 2 ^ 925) 1
  else .ofRatio negative ((2 ^ 23 + fraction) * 2 ^ (exponent - 1 + 925)) 1

/-- The base type, the place of the quality and the bits that make it uncertain. -/
def layout (typeId : UInt8) : Option (ℕ × ℕ × UInt8) :=
  match typeId.toNat with
  | 1 | 30 => some (1, 0, 0x70)
  | 3 | 31 => some (3, 0, 0x70)
  | 5 | 32 => some (5, 1, 0x70)
  | 7 | 33 => some (7, 4, 0x70)
  | 9 | 34 => some (9, 2, 0x70)
  | 11 | 35 => some (11, 2, 0x70)
  | 13 | 36 => some (13, 4, 0x70)
  | 15 | 37 => some (15, 4, 0x60)
  | _ => none

/-- `decode_measurement` (lines 829-890). -/
def decodeMeasurement (typeId : UInt8) (value : Bytes) :
    Except GatewayError (F64 × PointQuality) :=
  match layout typeId with
  | none => .error (.unsupported s!"unsupported IEC 101 measurement type {typeId}")
  | some (baseType, qualityIndex, uncertainMask) =>
    match value[qualityIndex]? with
    | none => .error (.invalidResponse "truncated IEC 101 quality descriptor")
    | some qualityByte =>
      let quality : PointQuality :=
        if qualityByte &&& 0x80 ≠ 0 then .bad
        else if qualityByte &&& uncertainMask ≠ 0 then .uncertain else .good
      let byte := ofLeBytes (value.take 1)
      let word := ofLeBytes (value.take 2)
      let long := ofLeBytes (value.take 4)
      let numeric :=
        match baseType with
        | 1 => F64.ofNat (byte % 2)
        | 3 => F64.ofNat (byte % 4)
        | 5 => ofInt (BitVec.ofNat 7 byte).toInt
        | 7 => F64.ofNat long
        | 9 => (ofInt (BitVec.ofNat 16 word).toInt).div (F64.ofNat 32768)
        | 11 => ofInt (BitVec.ofNat 16 word).toInt
        | 13 => ofF32 long
        | _ => ofInt (BitVec.ofNat 32 long).toInt
      if numeric.isFinite then .ok (numeric, quality)
      else .error (.dataConversion "IEC 101 measurement is not finite")

/-! ## The interrogation -/

section Interrogation

variable (ioaSize : ℕ)

/-- The address of an object: `next` in a sequence, otherwise what comes first. -/
def objectAddress (next : Option ℕ) (bytes : Bytes) : Except GatewayError (ℕ × Bytes) :=
  match next with
  | some ioa =>
    if ioa < 2 ^ 32 then .ok (ioa, bytes)
    else .error (.invalidResponse "IEC 101 IOA overflow")
  | none =>
    if bytes.length < ioaSize then .error (.invalidResponse "truncated IEC 101 IOA")
    else .ok (ofLeBytes (bytes.take ioaSize), bytes.drop ioaSize)

/-- The loop of `decode_measurement_asdu` (lines 773-809): the addresses and values of `n` more
    objects. -/
def decodeObjects (asdu : Asdu) (length : ℕ) : ℕ → Option ℕ → Bytes →
    Except GatewayError (List (ℕ × F64 × PointQuality))
  | 0, _, _ => .ok []
  | n + 1, next, bytes => do
    let (ioa, bytes) ← objectAddress ioaSize next bytes
    if bytes.length < length then
      .error (.invalidResponse "truncated IEC 101 information object")
    else
      let value ← decodeMeasurement asdu.typeId (bytes.take length)
      let rest ← decodeObjects asdu length n (if asdu.sequence then some (ioa + 1) else none)
        (bytes.drop length)
      .ok ((ioa, value) :: rest)

/-- The insertions for a message, under its type. -/
def decodeMeasurementAsdu (asdu : Asdu) (length : ℕ) : Except GatewayError (List Entry) :=
  (decodeObjects ioaSize asdu length asdu.count none asdu.objects).map fun objects =>
    objects.map fun object => ((object.1, asdu.typeId), object.2)

/-- The loop of `general_interrogation` (lines 288-340), from the frame `k` on and for `n` more; it
    returns the insertions into the map of values. An error of a frame is one of the link or of the
    header. -/
def interrogate (reads : ℕ → Except GatewayError Frame) : ℕ → ℕ → Bool → List Entry →
    Except GatewayError (List Entry)
  | 0, _, _, _ => .error (.invalidResponse "IEC 101 general interrogation did not complete")
  | n + 1, k, confirmed, values => do
    match ← reads k with
    | .link => interrogate reads n (k + 1) confirmed values
    | .asdu asdu =>
      if asdu.typeId = 100 then
        let confirmed := confirmed || asdu.cause == 7
        if asdu.cause ≠ 10 then interrogate reads n (k + 1) confirmed values
        else if confirmed then .ok values
        else .error (.invalidResponse "IEC 101 general interrogation did not complete")
      else
        match measurementValueLength asdu.typeId with
        | none => interrogate reads n (k + 1) confirmed values
        | some length =>
          let inserted ← decodeMeasurementAsdu ioaSize asdu length
          interrogate reads n (k + 1) confirmed (values ++ inserted)

/-- `general_interrogation` (lines 288-340) up to the projection. -/
def generalInterrogation (reads : ℕ → Except GatewayError Frame) :
    Except GatewayError (List Entry) :=
  interrogate ioaSize reads 256 0 false []

end Interrogation

variable (points : List (PointConfig Iec101PointMapping))

/-- The last value under the key. -/
def entryAt (values : List Entry) (ioa : ℕ) (typeId : UInt8) : Option Entry :=
  (lastEntry values (ioa, typeId)).map (Prod.mk (ioa, typeId))

/-- The entry whose value a point takes. The entries of an address come in the order of their
    types. -/
def taken (values : List Entry) (point : PointConfig Iec101PointMapping) : Option Entry :=
  (entryAt values point.address.ioa point.address.typeId).or
    (if ⟨point.address.ioa, 0⟩ ∈ points.map PointConfig.address then
      (List.range 256).findSome? fun t => entryAt values point.address.ioa (UInt8.ofNat t)
    else none)

/-- One point of `project_points` (lines 344-391). -/
def projectPoint (values : List Entry) (point : PointConfig Iec101PointMapping) :
    Except String DataPoint :=
  match taken points values point with
  | none => .error "IEC 101 interrogation returned no mapped value"
  | some (_, raw, quality) =>
    if point.pointType = .signal then
      let on := if point.transform.reverse then raw.eq .zero else !raw.eq .zero
      .ok ⟨point.id, point.pointType, .bool on, quality⟩
    else
      let transformed := (raw.mul point.transform.scale).add point.transform.offset
      if transformed.isFinite then .ok ⟨point.id, point.pointType, .float transformed, quality⟩
      else .error "IEC 101 transformed value is not finite"

/-! ## Values of the own type -/

/-- The entry is that of an object of a message of its type. -/
def Carried (ioaSize : ℕ) (reads : ℕ → Except GatewayError Frame) (entry : Entry) : Prop :=
  ∃ k asdu length inserted, reads k = .ok (.asdu asdu) ∧ asdu.typeId = entry.1.2 ∧
    measurementValueLength asdu.typeId = some length ∧
    decodeMeasurementAsdu ioaSize asdu length = .ok inserted ∧ entry ∈ inserted

variable {points} {ioaSize : ℕ} {reads : ℕ → Except GatewayError Frame} {values : List Entry}
  {point : PointConfig Iec101PointMapping}

theorem type_of_decodeMeasurementAsdu {asdu : Asdu} {length : ℕ} {inserted : List Entry}
    (h : decodeMeasurementAsdu ioaSize asdu length = .ok inserted) :
    ∀ entry ∈ inserted, asdu.typeId = entry.1.2 := by
  unfold decodeMeasurementAsdu at h
  cases hobjects : decodeObjects ioaSize asdu length asdu.count none asdu.objects with
  | error error =>
    rw [hobjects] at h
    cases h
  | ok objects =>
    rw [hobjects] at h
    cases h
    intro entry hentry
    obtain ⟨object, -, rfl⟩ := List.mem_map.1 hentry
    rfl

theorem carried_interrogate {n k : ℕ} {confirmed : Bool} {before : List Entry}
    (h : interrogate ioaSize reads n k confirmed before = .ok values)
    (hbefore : ∀ entry ∈ before, Carried ioaSize reads entry) :
    ∀ entry ∈ values, Carried ioaSize reads entry := by
  induction n generalizing k confirmed before with
  | zero => cases h
  | succ n ih =>
    obtain ⟨frame, hframe, h⟩ := bind_eq_ok.1 h
    rcases frame with _ | asdu
    · exact ih h hbefore
    dsimp only at h
    split_ifs at h
    · exact ih h hbefore
    · cases h
      exact hbefore
    split at h
    · exact ih h hbefore
    · rename_i length hlength
      obtain ⟨inserted, hinserted, h⟩ := bind_eq_ok.1 h
      refine ih h fun entry hentry => ?_
      rcases List.mem_append.1 hentry with hentry | hentry
      · exact hbefore entry hentry
      · have htype := type_of_decodeMeasurementAsdu hinserted entry hentry
        exact ⟨k, asdu, length, inserted, hframe, htype, hlength, hinserted, hentry⟩

theorem taken_mem {entry : Entry} (h : taken points values point = some entry) :
    entry ∈ values ∧ entry.1.1 = point.address.ioa := by
  have hentry {t : UInt8} (h : entryAt values point.address.ioa t = some entry) :
      entry ∈ values ∧ entry.1.1 = point.address.ioa := by
    obtain ⟨value, hvalue, rfl⟩ := Option.map_eq_some_iff.1 h
    exact ⟨mem_of_lastEntry hvalue, rfl⟩
  rcases Option.or_eq_some_iff.1 h with h | ⟨-, h⟩
  · exact hentry h
  · split_ifs at h
    obtain ⟨t, -, ht⟩ := List.exists_of_findSome?_eq_some h
    exact hentry ht

theorem entryAt_eq_none {ioa : ℕ} {t : UInt8} :
    entryAt values ioa t = none ↔ ∀ value, ((ioa, t), value) ∉ values := by
  rw [entryAt, Option.map_eq_none_iff, lastEntry_eq_none]

/-- A point takes only values of objects of its address and type exactly when one is reported, when
    no point is mapped without a type on the address, or when nothing is reported there. -/
theorem exact_iff (h : generalInterrogation ioaSize reads = .ok values) :
    (∀ entry, taken points values point = some entry →
        entry.1 = (point.address.ioa, point.address.typeId) ∧ Carried ioaSize reads entry) ↔
      (∃ value, ((point.address.ioa, point.address.typeId), value) ∈ values) ∨
        ⟨point.address.ioa, 0⟩ ∉ points.map PointConfig.address ∨
        ∀ entry ∈ values, entry.1.1 ≠ point.address.ioa := by
  have hcarried := carried_interrogate h nofun
  cases hown : entryAt values point.address.ioa point.address.typeId with
  | some own =>
    have htaken : taken points values point = some own := by rw [taken, hown, Option.some_or]
    obtain ⟨value, -, rfl⟩ := Option.map_eq_some_iff.1 hown
    have hmem := (taken_mem htaken).1
    rw [htaken]
    refine iff_of_true ?_ (.inl ⟨value, hmem⟩)
    rintro entry ⟨⟩
    exact ⟨rfl, hcarried _ hmem⟩
  | none =>
    have hno := entryAt_eq_none.1 hown
    constructor
    · intro hexact
      refine .inr (or_iff_not_imp_left.2 fun hany entry hentry hioa => ?_)
      -- the first entry of the address would be taken
      have htaken : taken points values point ≠ none := by
        rw [taken, hown, Option.none_or, if_pos (not_not.1 hany), Ne, List.findSome?_eq_none_iff]
        intro hnone
        have hentryType := hnone entry.1.2.toNat (List.mem_range.2 entry.1.2.toNat_lt)
        rw [UInt8.ofNat_toNat, entryAt_eq_none, ← hioa] at hentryType
        exact hentryType entry.2 hentry
      obtain ⟨found, hfound⟩ := Option.ne_none_iff_exists'.1 htaken
      refine hno found.2 ?_
      rw [← (hexact found hfound).1]
      exact (taken_mem hfound).1
    · rintro (⟨value, hvalue⟩ | hany | hnone) entry hentry
      · exact absurd hvalue (hno value)
      · rw [taken, hown, if_neg hany] at hentry
        cases hentry
      · exact absurd (taken_mem hentry).2 (hnone entry (taken_mem hentry).1)

/-- A station that reports a single point at address 5. -/
def switchReport : ℕ → Except GatewayError Frame
  | 0 => .ok (.asdu ⟨100, 1, false, 7, []⟩)
  | 1 => .ok (.asdu ⟨1, 1, false, 20, [5, 0, 0, 1]⟩)
  | _ => .ok (.asdu ⟨100, 1, false, 10, []⟩)

/-- The entry of that object. -/
def switchOn : Entry := ((5, 1), .one, .good)

/-- A telemetry point at address 5. -/
def mappedAt (typeId : UInt8) : PointConfig Iec101PointMapping :=
  ⟨1, .telemetry, ⟨5, typeId⟩, ⟨.one, .zero, false⟩⟩

/-- Beside a point without a type, a measured value takes that of the switch. -/
theorem measured_takes_switch :
    generalInterrogation 3 switchReport = .ok [switchOn] ∧
      taken [mappedAt 13, mappedAt 0] [switchOn] (mappedAt 13) = some switchOn := by
  decide +kernel

/-- A point of type 1 takes it rightly, also beside a point without a type. -/
theorem switch_takes_own :
    taken [mappedAt 1, mappedAt 0] [switchOn] (mappedAt 1) = some switchOn ∧
      switchOn.1 = (5, 1) ∧ Carried 3 switchReport switchOn := by
  have hvalues : generalInterrogation 3 switchReport = .ok [switchOn] := by decide +kernel
  have htaken : taken [mappedAt 1, mappedAt 0] [switchOn] (mappedAt 1) = some switchOn := by
    decide +kernel
  refine ⟨htaken, ?_⟩
  exact (exact_iff hvalues).2 (.inl ⟨_, List.mem_singleton_self switchOn⟩) switchOn htaken

end AetherEdge.Io.Iec101
