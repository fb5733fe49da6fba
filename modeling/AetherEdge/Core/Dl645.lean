import AetherEdge.Io.Dl645

/-!
# The DL/T 645 decoder without allocation

`decode_response` of `libs/aether-core/src/codec/dl645.rs` against that of the IO adapter. It makes
the same checks in the same order, but keeps the data of a response in arrays of 64 bytes, of which
the echo of the identifier takes four. With more than 60 bytes of data a slice of the array runs
past its end, and the function panics (`agree_iff`). The constants are those of the adapter.
-/

namespace AetherEdge.Core.Dl645

open Io Io.Dl645 List

/-- Lines 56-75. -/
inductive Dl645Error where
  | noData
  | dateError
  | noPermission
  | frameError
  | checksumError
  | invalidLength
  | invalidMarkers
  | addressError
  | otherError
  deriving DecidableEq

/-- The codes in `decode_response` (lines 367-449). -/
def Dl645Error.ofCode (code : UInt8) : Dl645Error :=
  if code = 0x01 then .noData
  else if code = 0x02 then .dateError
  else if code = 0x04 then .noPermission
  else if code = 0x08 then .frameError
  else .otherError

/-- `MeterAddress::from_wire_bytes` (lines 132-144): the address in display order. -/
def fromWireBytes (wire : Bytes) : Except Dl645Error Bytes :=
  if wire.length < 6 then .error .addressError
  else .ok ((List.range 6).map fun i => wire.getD (5 - i) 0)

/-- Lines 244-253. -/
structure Dl645Frame where
  meterAddr : Bytes
  /-- In display order: the reverse of the order on the wire. -/
  dataId : Bytes
  data : Bytes
  dataLen : ℕ
  deriving DecidableEq

/-- `decode_data` (lines 294-303). -/
def decodeData (data : Bytes) : Bytes :=
  (data.take 64).map (· - dataOffset) ++ List.replicate (64 - data.length) 0

/-- `calculate_checksum` (lines 306-312). -/
def calculateChecksum (frame : Bytes) : UInt8 :=
  (frame.foldl (fun sum b => sum + b.toUInt16) (0 : UInt16) &&& 0xFF).toUInt8

/-- `data[..len].copy_from_slice(&decoded[4..4 + len])`: a panic outside the arrays. -/
def copyData (decoded : Bytes) (len : ℕ) : Option Bytes :=
  if len ≤ 64 ∧ 4 + len ≤ decoded.length then
    some ((decoded.take (4 + len)).drop 4 ++ List.replicate (64 - len) 0)
  else none

/-- `decode_response` (lines 367-449); a panic is `none`. -/
def decodeResponse (frame : Bytes) : Option (Except Dl645Error Dl645Frame) :=
  let byte (i : ℕ) : UInt8 := frame.getD i 0
  let csIdx := frame.length - 2
  let ctrl := byte 8
  let dataLen := (byte 9).toNat
  if frame.length < 14 then some (.error .invalidLength)
  else if byte 0 ≠ frameStart ∨ byte 7 ≠ frameStart then some (.error .invalidMarkers)
  else if byte (frame.length - 1) ≠ frameEnd then some (.error .invalidMarkers)
  else if byte csIdx ≠ calculateChecksum (frame.take csIdx) then some (.error .checksumError)
  else
    match fromWireBytes ((frame.take 7).drop 1) with
    | .error error => some (.error error)
    | .ok meterAddr =>
      if frame.length ≠ 10 + dataLen + 2 then some (.error .invalidLength)
      else if ctrl = ctrlReadDataErr then
        if 0 < dataLen then some (.error (.ofCode (byte 10 - dataOffset)))
        else some (.error .otherError)
      else if ctrl ≠ ctrlReadDataResp then some (.error .frameError)
      else if dataLen < 4 then some (.error .invalidLength)
      else
        let decoded := decodeData ((frame.drop 10).take dataLen)
        let diBytes := (List.range 4).map fun i => decoded.getD (3 - i) 0
        (copyData decoded (dataLen - 4)).map fun data => .ok ⟨meterAddr, diBytes, data, dataLen - 4⟩

/-- Both decoders reject, or both accept with the same address, identifier and data. -/
def Agree : Option (Except Dl645Error Dl645Frame) → Except GatewayError Dl645Response → Prop
  | some (.error _), .error _ => True
  | some (.ok frame), .ok response =>
    frame.meterAddr = response.meterAddr.bytes ∧ frame.dataId.reverse = response.dataId.bytes ∧
      frame.data.take frame.dataLen = response.data
  | _, _ => False

theorem calculateChecksum_eq (frame : Bytes) :
    calculateChecksum frame = Io.Dl645.calculateChecksum frame := by
  have hfold (sum : UInt16) : (frame.foldl (fun sum b => sum + b.toUInt16) sum).toUInt8 =
      frame.foldl (· + ·) sum.toUInt8 := by
    induction frame generalizing sum with
    | nil => rfl
    | cons b frame ih => simp [ih]
  rw [calculateChecksum, UInt16.toUInt8_and, hfold]
  exact UInt8.and_neg_one

variable {frame wire data : Bytes} {addr : MeterAddress} {response : Dl645Response}

theorem fromWireBytes_eq (h : MeterAddress.fromWireBytes wire = .ok addr) :
    fromWireBytes wire = .ok addr.bytes := by
  unfold MeterAddress.fromWireBytes at h
  split_ifs at h with hlen
  cases h
  rw [fromWireBytes, if_neg (by omega)]
  refine congrArg Except.ok (ext_getElem (by simp [hlen]) fun i hi _ => ?_)
  rw [length_map, length_range] at hi
  have hplace : wire.length - 1 - i = 5 - i := by omega
  simp [hplace, show 5 - i < wire.length by omega]

theorem decodeResponse_framed (h : Framed addr ctrlReadDataResp data frame)
    (hlong : 4 ≤ data.length) :
    decodeResponse frame = (copyData (decodeData data) (data.length - 4)).map fun bytes =>
      .ok ⟨addr.bytes, (List.range 4).map fun i => (decodeData data).getD (3 - i) 0, bytes,
        data.length - 4⟩ := by
  have hlen := h.length_eq
  have hctrl : frame.getD 8 0 ≠ ctrlReadDataErr := by
    rw [h.control]
    decide
  unfold decodeResponse
  dsimp only
  rw [if_neg (by omega), if_neg (by simp only [h.start, h.second]; simp),
    if_neg (not_not.2 h.ending), calculateChecksum_eq, if_neg (not_not.2 h.checksum),
    fromWireBytes_eq h.address]
  dsimp only
  rw [h.size, if_neg (by omega), if_neg hctrl, if_neg (not_not.2 h.control), if_neg (by omega),
    h.payload]

theorem decodeData_encodeData (hfits : data.length ≤ 64) :
    decodeData (encodeData data) = data ++ List.replicate (64 - data.length) 0 := by
  have hlen : (encodeData data).length = data.length := length_map _
  rw [decodeData, hlen, take_of_length_le (by omega)]
  congr 1
  exact Io.Dl645.decodeData_encodeData data

/-- A response of at most 60 bytes is accepted with what it carries. -/
theorem agree_encodeResponse (hfits : response.data.length ≤ 60) :
    Agree (decodeResponse (encodeResponse response)) (.ok response) := by
  obtain ⟨addr, ⟨di, hdi⟩, data⟩ := response
  dsimp only at hfits
  have hlen := length_payload ⟨addr, ⟨di, hdi⟩, data⟩
  dsimp only at hlen
  rw [decodeResponse_framed (framed_encodeResponse (by dsimp only; omega))
    (by dsimp only; omega), decodeData_encodeData (by simp [hdi]; omega), hlen,
    Nat.add_sub_cancel_left, copyData, if_pos (by simp [hdi]; omega),
    take_left' (by simp [hdi]), drop_left' hdi]
  match di, hdi with
  | [d0, d1, d2, d3], _ => exact ⟨rfl, rfl, take_left' rfl⟩

/-- A response of more than 60 bytes makes the decoder panic. -/
theorem decodeResponse_panics (hlong : 60 < response.data.length)
    (hfits : response.data.length < 252) : decodeResponse (encodeResponse response) = none := by
  have hlen := length_payload response
  rw [decodeResponse_framed (framed_encodeResponse hfits) (by omega), copyData,
    if_neg (by simp [decodeData]; omega)]
  rfl

theorem decodeResponse_rejects {error : GatewayError}
    (h : Io.Dl645.decodeResponse frame = .error error) :
    ∃ reason, decodeResponse frame = some (.error reason) := by
  unfold Io.Dl645.decodeResponse at h
  unfold decodeResponse
  dsimp only at h ⊢
  rw [calculateChecksum_eq]
  split_ifs at h ⊢ with hshort _ _ _ hlen _ _ _ hpay
  iterate 4 exact ⟨_, rfl⟩
  iterate 5
    cases fromWireBytes ((frame.take 7).drop 1) with
    | error reason => exact ⟨reason, rfl⟩
    | ok wire => exact ⟨_, rfl⟩
  -- With four bytes of data the adapter accepts.
  have hwire : ((frame.take 7).drop 1).length = 6 := by
    rw [length_drop, length_take]
    omega
  have hdata : ¬(Io.Dl645.decodeData ((frame.drop 10).take (frame.getD 9 0).toNat)).length < 4 := by
    rw [Io.Dl645.decodeData, length_map, length_take, length_drop]
    omega
  rw [MeterAddress.fromWireBytes, dif_pos hwire, ok_bind, decodePayload, dif_neg hdata] at h
  cases h

/-- The decoders agree on a frame exactly when it is not that of a response of more than 60 bytes;
    on those the one without allocation panics. -/
theorem agree_iff :
    Agree (decodeResponse frame) (Io.Dl645.decodeResponse frame) ↔
      ∀ response, 60 < response.data.length → response.data.length < 252 →
        frame ≠ encodeResponse response := by
  constructor
  · rintro h response hlong hfits rfl
    rw [decodeResponse_panics hlong hfits] at h
    exact h
  · intro h
    cases hio : Io.Dl645.decodeResponse frame with
    | error error =>
      obtain ⟨reason, hreason⟩ := decodeResponse_rejects hio
      rw [hreason]
      trivial
    | ok response =>
      obtain ⟨rfl, hfits⟩ := eq_encodeResponse hio
      apply agree_encodeResponse
      by_contra hlong
      exact h response (not_le.1 hlong) hfits rfl

/-- A response of 61 bytes. -/
def longResponse : Dl645Response :=
  ⟨⟨List.replicate 6 0x11, rfl⟩, ⟨[0x00, 0x00, 0x01, 0x00], rfl⟩, List.replicate 61 0⟩

theorem longResponse_panics :
    Io.Dl645.decodeResponse (encodeResponse longResponse) = .ok longResponse ∧
      decodeResponse (encodeResponse longResponse) = none :=
  ⟨decodeResponse_encodeResponse (by decide), decodeResponse_panics (by decide) (by decide)⟩

end AetherEdge.Core.Dl645
