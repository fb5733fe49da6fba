import AetherEdge.Common.Binary64
import AetherEdge.Common.Text
import AetherEdge.Io.PointConfig

/-!
# DL/T 645-2007 frames

The frames, the data formats and the receiver of the DL/T 645 adapter
(`services/io/src/protocols/adapters/dl645.rs`).

* `decodeResponse_encodeResponse`, `eq_encodeResponse`: `decode_response` accepts exactly the frames
  of normal responses, and returns what they carry;
* `receiveLoop_stable`: the receiver needs no more reads than its buffer has bytes.
-/

namespace AetherEdge.Io.Dl645

open List

/-! ## Constants -/

/-- Line 47. -/
def frameStart : UInt8 := 0x68

/-- Line 48. -/
def frameEnd : UInt8 := 0x16

/-- Line 51. -/
def ctrlReadData : UInt8 := 0x11

/-- Line 52. -/
def ctrlReadDataResp : UInt8 := 0x91

/-- Line 53. -/
def ctrlReadDataErr : UInt8 := 0xD1

/-- Line 56. -/
def dataOffset : UInt8 := 0x33

/-- Line 68. -/
def maxFrameSize : ℕ := 256

/-- `format!("{:02X}", byte)`. -/
def hexByte (byte : UInt8) : String := padZeros 2 (upperHex byte.toNat)

/-! ## Addresses and identifiers -/

/-- Lines 141-144. -/
structure MeterAddress where
  bytes : Bytes
  length_eq : bytes.length = 6
  deriving DecidableEq

namespace MeterAddress

/-- Two digits as a byte. -/
def pair (text : Bytes) (i : ℕ) : UInt8 :=
  ((text.getD (2 * i) 0 - 48) <<< 4) ||| (text.getD (2 * i + 1) 0 - 48)

/-- `parse` (lines 152-174). -/
def parse (s : String) : Except GatewayError MeterAddress :=
  if strLen s ≠ 12 then
    .error (.config s!"Meter address must be 12 digits, got {strLen s} digits")
  else if !s.toList.all Char.isDigit then
    .error (.config "Meter address must contain only digits")
  else .ok ⟨(List.range 6).map (pair (strBytes s)), by simp⟩

/-- `to_wire_bytes` (lines 186-192). -/
def toWireBytes (addr : MeterAddress) : Bytes := addr.bytes.reverse

/-- `from_wire_bytes` (lines 195-207). -/
def fromWireBytes (wire : Bytes) : Except GatewayError MeterAddress :=
  if h : wire.length = 6 then .ok ⟨wire.reverse, by rw [List.length_reverse, h]⟩
  else .error (.protocol s!"Expected 6 bytes for meter address, got {wire.length}")

end MeterAddress

/-- Lines 230-233. -/
structure DataIdentifier where
  bytes : Bytes
  length_eq : bytes.length = 4
  deriving DecidableEq

/-- `from_u32` (lines 267-276). -/
def DataIdentifier.fromU32 (value : UInt32) : DataIdentifier where
  bytes := [value.toUInt8, (value >>> 8).toUInt8, (value >>> 16).toUInt8, (value >>> 24).toUInt8]
  length_eq := rfl

/-! ## Frames -/

/-- `encode_data` (lines 320-322). -/
def encodeData (data : Bytes) : Bytes := data.map (· + dataOffset)

/-- `decode_data` (lines 325-327). -/
def decodeData (data : Bytes) : Bytes := data.map (· - dataOffset)

/-- `calculate_checksum` (lines 330-332). -/
def calculateChecksum (frame : Bytes) : UInt8 := frame.foldl (· + ·) 0

/-- The checksum and the end marker after the header and the data. -/
def finishFrame (frame : Bytes) : Bytes := frame ++ [calculateChecksum frame, frameEnd]

/-- `encode_read_request` (lines 345-375). -/
def encodeReadRequest (meterAddr : MeterAddress) (dataId : DataIdentifier) : Bytes :=
  finishFrame ([frameStart] ++ meterAddr.toWireBytes ++ [frameStart, ctrlReadData, 4] ++
    encodeData dataId.bytes)

/-- Lines 379-386. -/
structure Dl645Response where
  meterAddr : MeterAddress
  dataId : DataIdentifier
  data : Bytes
  deriving DecidableEq

/-- `Dl645Error` and its texts. -/
inductive Dl645Error where
  | noData
  | dateError
  | noPermission
  | frameError
  | otherError
  deriving DecidableEq, Repr

namespace Dl645Error

/-- The discriminants of the enum (lines 390-401). -/
def discriminant : Dl645Error → UInt8
  | .noData => 0x01
  | .dateError => 0x02
  | .noPermission => 0x04
  | .frameError => 0x08
  | .otherError => 0x10

/-- The match of `decode_response` on the error code (lines 470-476). -/
def ofCode (code : UInt8) : Dl645Error :=
  if code = 0x01 then .noData
  else if code = 0x02 then .dateError
  else if code = 0x04 then .noPermission
  else if code = 0x08 then .frameError
  else .otherError

/-- The `Display` of the error. -/
def text : Dl645Error → String
  | .noData => "Data does not exist"
  | .dateError => "Date/time error"
  | .noPermission => "No permission"
  | .frameError => "Frame verification error"
  | .otherError => "Other error"

end Dl645Error

/-- The data of a response: the echo of the identifier, then the value. -/
def decodePayload (meterAddr : MeterAddress) (encodedData : Bytes) :
    Except GatewayError Dl645Response :=
  let decoded := decodeData encodedData
  if h : decoded.length < 4 then .error (.protocol "Response data too short for DI")
  else .ok ⟨meterAddr, ⟨decoded.take 4, by rw [List.length_take]; omega⟩, decoded.drop 4⟩

/-- `decode_response` (lines 418-515). -/
def decodeResponse (frame : Bytes) : Except GatewayError Dl645Response :=
  let byte (i : ℕ) : UInt8 := frame.getD i 0
  let csIdx := frame.length - 2
  let expectedCs := calculateChecksum (frame.take csIdx)
  let ctrl := byte 8
  let dataLen := (byte 9).toNat
  if frame.length < 14 then .error (.protocol s!"Frame too short: {frame.length} bytes")
  else if byte 0 ≠ frameStart ∨ byte 7 ≠ frameStart then
    .error (.protocol "Invalid frame start markers")
  else if byte (frame.length - 1) ≠ frameEnd then .error (.protocol "Invalid frame end marker")
  else if byte csIdx ≠ expectedCs then
    .error (.protocol
      s!"Checksum mismatch: expected {hexByte expectedCs}, got {hexByte (byte csIdx)}")
  else do
    let meterAddr ← MeterAddress.fromWireBytes ((frame.take 7).drop 1)
    let expectedLen := 10 + dataLen + 2
    if frame.length ≠ expectedLen then
      .error (.protocol s!"Frame length mismatch: expected {expectedLen}, got {frame.length}")
    else if ctrl = ctrlReadDataErr then
      if 0 < dataLen then
        .error (.protocol ("Meter error: " ++ (Dl645Error.ofCode (byte 10 - dataOffset)).text))
      else .error (.protocol "Meter returned error without code")
    else if ctrl ≠ ctrlReadDataResp then
      .error (.protocol s!"Unexpected control code: {hexByte ctrl}")
    else decodePayload meterAddr ((frame.drop 10).take dataLen)

/-- The frame of a response. -/
def encodeResponse (response : Dl645Response) : Bytes :=
  finishFrame ([frameStart] ++ response.meterAddr.toWireBytes ++
    [frameStart, ctrlReadDataResp, UInt8.ofNat (4 + response.data.length)] ++
    encodeData (response.dataId.bytes ++ response.data))

theorem decodeData_encodeData (data : Bytes) : decodeData (encodeData data) = data := by
  rw [decodeData, encodeData, map_map]
  conv_rhs => rw [← map_id data]
  apply map_congr_left
  intro byte _
  simp

theorem encodeData_decodeData (data : Bytes) : encodeData (decodeData data) = data := by
  rw [decodeData, encodeData, map_map]
  conv_rhs => rw [← map_id data]
  apply map_congr_left
  intro byte _
  simp

theorem length_finishFrame (body : Bytes) : (finishFrame body).length = body.length + 2 := by
  simp [finishFrame]

theorem finishFrame_end (body : Bytes) :
    (finishFrame body).take ((finishFrame body).length - 2) = body ∧
      (finishFrame body).getD ((finishFrame body).length - 2) 0 = calculateChecksum body ∧
      (finishFrame body).getD ((finishFrame body).length - 1) 0 = frameEnd := by
  have hlen := length_finishFrame body
  have h2 : (finishFrame body).length - 2 = body.length := by omega
  have h1 : (finishFrame body).length - 1 = body.length + 1 := by omega
  rw [h1, h2, finishFrame]
  refine ⟨take_left' rfl, ?_, ?_⟩
  · rw [getD_append_right _ _ _ _ le_rfl, Nat.sub_self]
    rfl
  · rw [getD_append_right _ _ _ _ (by omega), Nat.add_sub_cancel_left]
    rfl

variable {frame : Bytes}

theorem eq_finishFrame (hlen : 2 ≤ frame.length)
    (hend : frame.getD (frame.length - 1) 0 = frameEnd)
    (hsum : frame.getD (frame.length - 2) 0 = calculateChecksum (frame.take (frame.length - 2))) :
    frame = finishFrame (frame.take (frame.length - 2)) := by
  have h2 : frame.length - 2 < frame.length := by omega
  have h1 : frame.length - 2 + 1 < frame.length := by omega
  have h0 : frame.length ≤ frame.length - 2 + 1 + 1 := by omega
  have hlast : frame.length - 2 + 1 = frame.length - 1 := by omega
  conv_lhs => rw [← take_append_drop (frame.length - 2) frame]
  rw [finishFrame, drop_eq_getElem_cons h2, drop_eq_getElem_cons h1,
    drop_eq_nil_of_le h0, ← hsum, ← hend, getD_eq_getElem _ _ h2, ← hlast,
    getD_eq_getElem _ _ h1]

/-- The header and the data of a normal response. -/
def responseBody (response : Dl645Response) : Bytes :=
  [frameStart] ++ response.meterAddr.toWireBytes ++
    [frameStart, ctrlReadDataResp, UInt8.ofNat (4 + response.data.length)] ++
    encodeData (response.dataId.bytes ++ response.data)

theorem toWireBytes_length (addr : MeterAddress) : addr.toWireBytes.length = 6 := by
  rw [MeterAddress.toWireBytes, length_reverse, addr.length_eq]

theorem fromWireBytes_toWireBytes (addr : MeterAddress) :
    MeterAddress.fromWireBytes addr.toWireBytes = .ok addr := by
  rw [MeterAddress.fromWireBytes, dif_pos (toWireBytes_length addr)]
  simp [MeterAddress.toWireBytes]

/-- What the checks of `decode_response` see of a frame: its sender, control code and data. -/
structure Framed (addr : MeterAddress) (ctrl : UInt8) (data frame : Bytes) : Prop where
  length_eq : frame.length = 12 + data.length
  start : frame.getD 0 0 = frameStart
  second : frame.getD 7 0 = frameStart
  ending : frame.getD (frame.length - 1) 0 = frameEnd
  checksum : frame.getD (frame.length - 2) 0 = calculateChecksum (frame.take (frame.length - 2))
  address : MeterAddress.fromWireBytes ((frame.take 7).drop 1) = .ok addr
  size : (frame.getD 9 0).toNat = data.length
  control : frame.getD 8 0 = ctrl
  payload : (frame.drop 10).take data.length = data

theorem framed_finishFrame (addr : MeterAddress) (ctrl : UInt8) {data : Bytes}
    (hfits : data.length < 256) :
    Framed addr ctrl data (finishFrame ([frameStart] ++ addr.toWireBytes ++
      [frameStart, ctrl, UInt8.ofNat data.length] ++ data)) := by
  obtain ⟨hbody, hsum, hend⟩ := finishFrame_end ([frameStart] ++ addr.toWireBytes ++
    [frameStart, ctrl, UInt8.ofNat data.length] ++ data)
  have hlen := toWireBytes_length addr
  have haddr := fromWireBytes_toWireBytes addr
  refine ⟨?_, ?_, ?_, hend, ?_, ?_, ?_, ?_, ?_⟩
  case refine_4 => rw [hsum, hbody]
  all_goals
    generalize addr.toWireBytes = wire at hlen haddr
    match wire, hlen with
    | [w0, w1, w2, w3, w4, w5], _ => simp [finishFrame, Nat.mod_eq_of_lt hfits, haddr] <;> omega

theorem length_payload (response : Dl645Response) :
    (encodeData (response.dataId.bytes ++ response.data)).length = 4 + response.data.length := by
  rw [encodeData, length_map, length_append, response.dataId.length_eq]

theorem framed_encodeResponse {response : Dl645Response} (hfits : response.data.length < 252) :
    Framed response.meterAddr ctrlReadDataResp
      (encodeData (response.dataId.bytes ++ response.data)) (encodeResponse response) := by
  rw [encodeResponse, ← length_payload]
  apply framed_finishFrame
  rw [length_payload]
  omega

theorem decodePayload_encodeData (response : Dl645Response) :
    decodePayload response.meterAddr (encodeData (response.dataId.bytes ++ response.data)) =
      .ok response := by
  obtain ⟨addr, ⟨di, hdi⟩, data⟩ := response
  simp only [decodePayload, decodeData_encodeData]
  rw [dif_neg (by simp [hdi])]
  simp [take_left' hdi, drop_left' hdi]

/-- What `decode_response` checks of a frame that it accepts. -/
structure Accepted (frame : Bytes) (response : Dl645Response) : Prop where
  length_ge : 14 ≤ frame.length
  start : frame.getD 0 0 = frameStart
  second : frame.getD 7 0 = frameStart
  ending : frame.getD (frame.length - 1) 0 = frameEnd
  checksum : frame.getD (frame.length - 2) 0 = calculateChecksum (frame.take (frame.length - 2))
  address : MeterAddress.fromWireBytes ((frame.take 7).drop 1) = .ok response.meterAddr
  length_eq : frame.length = 10 + (frame.getD 9 0).toNat + 2
  control : frame.getD 8 0 = ctrlReadDataResp
  payload : decodePayload response.meterAddr ((frame.drop 10).take (frame.getD 9 0).toNat) =
    .ok response

variable {response : Dl645Response} {addr : MeterAddress}

theorem meterAddr_decodePayload {data : Bytes} (h : decodePayload addr data = .ok response) :
    response.meterAddr = addr := by
  unfold decodePayload at h
  dsimp only at h
  split_ifs at h
  cases h
  rfl

theorem decodeResponse_eq_ok : decodeResponse frame = .ok response ↔ Accepted frame response := by
  constructor
  · intro h
    unfold decodeResponse at h
    dsimp only at h
    split_ifs at h with hshort hstart hend hsum hlen hctrl _ hresp
    all_goals obtain ⟨meterAddr, haddr, h⟩ := bind_eq_ok.1 h
    · cases h
    · cases h
    · cases h
    · cases h
    · rw [not_or, not_not, not_not] at hstart
      rw [← meterAddr_decodePayload h] at haddr h
      exact ⟨not_lt.1 hshort, hstart.1, hstart.2, not_not.1 hend, not_not.1 hsum, haddr,
        not_not.1 hlen, not_not.1 hresp, h⟩
  · intro h
    have hctl : ¬frame.getD 8 0 = ctrlReadDataErr := by
      rw [h.control]
      decide
    unfold decodeResponse
    dsimp only
    rw [if_neg (not_lt.2 h.length_ge), if_neg (by simp only [h.start, h.second]; simp),
      if_neg (not_not.2 h.ending), if_neg (not_not.2 h.checksum), h.address, ok_bind,
      if_neg (not_not.2 h.length_eq), if_neg hctl, if_neg (not_not.2 h.control), h.payload]

/-- Of a frame with two or more data bytes, `decode_response` returns what it carries. -/
theorem decodeResponse_framed {ctrl : UInt8} {data : Bytes} (h : Framed addr ctrl data frame)
    (hlong : 2 ≤ data.length) :
    decodeResponse frame =
      if ctrl = ctrlReadDataErr then
        .error (.protocol ("Meter error: " ++
          (Dl645Error.ofCode (data.getD 0 0 - dataOffset)).text))
      else if ctrl ≠ ctrlReadDataResp then
        .error (.protocol s!"Unexpected control code: {hexByte ctrl}")
      else decodePayload addr data := by
  obtain ⟨hlen, hstart, hsecond, hend, hsum, haddr, hsize, rfl, hdata⟩ := h
  have hcode : data.getD 0 0 = frame.getD 10 0 := by
    rw [← hdata, getD_eq_getElem?_getD, getElem?_take_of_lt (by omega),
      List.getElem?_drop, getD_eq_getElem?_getD]
  unfold decodeResponse
  dsimp only
  rw [if_neg (by omega), if_neg (by simp only [hstart, hsecond]; simp), if_neg (not_not.2 hend),
    if_neg (not_not.2 hsum), haddr, ok_bind, hsize, if_neg (by omega), hdata,
    if_pos (show 0 < data.length by omega), hcode]

theorem decodeResponse_encodeResponse (hfits : response.data.length < 252) :
    decodeResponse (encodeResponse response) = .ok response := by
  rw [decodeResponse_framed (framed_encodeResponse hfits)]
  · rw [if_neg (by decide), if_neg (by decide), decodePayload_encodeData]
  · rw [length_payload]
    omega

theorem toWireBytes_of_fromWireBytes {wire : Bytes}
    (h : MeterAddress.fromWireBytes wire = .ok addr) : addr.toWireBytes = wire := by
  unfold MeterAddress.fromWireBytes at h
  split_ifs at h
  cases h
  exact reverse_reverse wire

theorem encodeData_of_decodePayload {data : Bytes} (h : decodePayload addr data = .ok response) :
    encodeData (response.dataId.bytes ++ response.data) = data := by
  unfold decodePayload at h
  dsimp only at h
  split_ifs at h
  cases h
  rw [take_append_drop, encodeData_decodeData]

theorem header_parts (h : 10 ≤ frame.length) :
    frame.take 10 = [frame.getD 0 0] ++ (frame.take 7).drop 1 ++
      [frame.getD 7 0, frame.getD 8 0, frame.getD 9 0] := by
  match frame, h with
  | _ :: _ :: _ :: _ :: _ :: _ :: _ :: _ :: _ :: _ :: _, _ => rfl

/-- What `decode_response` accepts is the frame of a normal response. -/
theorem eq_encodeResponse (h : decodeResponse frame = .ok response) :
    frame = encodeResponse response ∧ response.data.length < 252 := by
  rw [decodeResponse_eq_ok] at h
  have hlen := h.length_eq
  have hbyte : (frame.getD 9 0).toNat < 256 := (frame.getD 9 0).toNat_lt
  have hpay := encodeData_of_decodePayload h.payload
  have hsize : (frame.getD 9 0).toNat = 4 + response.data.length := by
    have := congrArg List.length hpay
    rw [length_payload, length_take, length_drop] at this
    omega
  refine ⟨?_, by omega⟩
  rw [eq_finishFrame (by omega) h.ending h.checksum]
  show finishFrame _ = finishFrame (responseBody response)
  congr 1
  have haddr := toWireBytes_of_fromWireBytes h.address
  have hbyte9 : UInt8.ofNat (4 + response.data.length) = frame.getD 9 0 := by
    rw [← hsize, UInt8.ofNat_toNat]
  rw [responseBody, haddr, hpay, hbyte9, ← h.control,
    show frame.length - 2 = 10 + (frame.getD 9 0).toNat by omega, take_add,
    header_parts (by omega), h.start, h.second]

/-- The accepted frames are exactly those of the responses whose data fits. -/
theorem accepts_exactly_responses {frame : Bytes} {response : Dl645Response} :
    decodeResponse frame = .ok response ↔
      frame = encodeResponse response ∧ response.data.length < 252 := by
  constructor
  · exact eq_encodeResponse
  · rintro ⟨rfl, hfits⟩
    exact decodeResponse_encodeResponse hfits

/-! ## Values -/

/-- Lines 523-536. -/
inductive DataFormat where
  | energy
  | voltage
  | current
  | power
  | powerFactor
  | raw
  deriving DecidableEq, Repr

/-- `bcd_to_u32` (lines 682-684). -/
def bcdToU32 (bcd : UInt8) : ℕ := ((bcd >>> 4) * 10 + (bcd &&& 0x0F)).toNat

/-- `f64::from(integer) + f64::from(decimal) / scale`. -/
def decimalValue (integer decimal scale : ℕ) : F64 :=
  (F64.ofNat integer).add ((F64.ofNat decimal).div (F64.ofNat scale))

/-- The low and the high digit of a byte. -/
def lowDigit (byte : UInt8) : ℕ := bcdToU32 (byte &&& 0x0F)

/-- The high nibble as a digit. -/
def highDigit (byte : UInt8) : ℕ := bcdToU32 (byte >>> 4)

/-- `parse_energy` (lines 588-601). -/
def parseEnergy (data : Bytes) : Except GatewayError F64 :=
  if data.length < 4 then .error (.protocol "Insufficient data for energy")
  else
    let byte (i : ℕ) : UInt8 := data.getD i 0
    let decimal := bcdToU32 (byte 0)
    let integer := bcdToU32 (byte 1) + bcdToU32 (byte 2) * 100 + bcdToU32 (byte 3) * 10000
    .ok (decimalValue integer decimal 100)

/-- `parse_voltage` (lines 604-616). -/
def parseVoltage (data : Bytes) : Except GatewayError F64 :=
  if data.length < 2 then .error (.protocol "Insufficient data for voltage")
  else
    let byte (i : ℕ) : UInt8 := data.getD i 0
    let integer := highDigit (byte 0) + lowDigit (byte 1) * 10 + highDigit (byte 1) * 100
    .ok (decimalValue integer (lowDigit (byte 0)) 10)

/-- `parse_current` (lines 619-634). -/
def parseCurrent (data : Bytes) : Except GatewayError F64 :=
  if data.length < 3 then .error (.protocol "Insufficient data for current")
  else
    let byte (i : ℕ) : UInt8 := data.getD i 0
    let integer := highDigit (byte 1) + lowDigit (byte 2) * 10 + highDigit (byte 2) * 100
    let decimal := lowDigit (byte 1) * 100 + highDigit (byte 0) * 10 + lowDigit (byte 0)
    .ok (decimalValue integer decimal 1000)

/-- `if is_negative { -value } else { value }`. -/
def signed (negative : Bool) (value : F64) : F64 := if negative then value.neg else value

/-- `parse_power` (lines 637-656). -/
def parsePower (data : Bytes) : Except GatewayError F64 :=
  if data.length < 3 then .error (.protocol "Insufficient data for power")
  else
    let byte (i : ℕ) : UInt8 := data.getD i 0
    let isNegative := byte 2 &&& 0x80 != 0
    let lastByte := byte 2 &&& 0x7F
    let integer := lowDigit lastByte + highDigit lastByte * 10
    let decimal := highDigit (byte 1) * 1000 + lowDigit (byte 1) * 100 + highDigit (byte 0) * 10 +
      lowDigit (byte 0)
    .ok (signed isNegative (decimalValue integer decimal 10000))

/-- `parse_power_factor` (lines 659-679). -/
def parsePowerFactor (data : Bytes) : Except GatewayError F64 :=
  if data.length < 2 then .error (.protocol "Insufficient data for power factor")
  else
    let byte (i : ℕ) : UInt8 := data.getD i 0
    let isNegative := byte 1 &&& 0x80 != 0
    let lastByte := byte 1 &&& 0x7F
    let decimal := lowDigit lastByte * 100 + highDigit (byte 0) * 10 + lowDigit (byte 0)
    .ok (signed isNegative (decimalValue (highDigit lastByte) decimal 1000))

/-- `parse_bcd_data` (lines 573-585). -/
def parseBcdData (data : Bytes) : DataFormat → Except GatewayError F64
  | .energy => parseEnergy data
  | .voltage => parseVoltage data
  | .current => parseCurrent data
  | .power => parsePower data
  | .powerFactor => parsePowerFactor data
  | .raw => .ok (F64.ofNat (data.getD 0 0).toNat)

/-! ## Receiving a frame -/

/-- The errors of `GatewayError` that a read returns. -/
inductive ReadError where
  | gateway (error : GatewayError)
  | notConnected
  | io (message : String)
  | readTimeout
  | writeTimeout
  deriving DecidableEq

/-- The `Display` of the error. -/
def ReadError.text : ReadError → String
  | .gateway error => error.text
  | .notConnected => "Not connected"
  | .io message => "IO error: " ++ message
  | .readTimeout => "Read timeout"
  | .writeTimeout => "Write timeout"

/-- What a read of the stream returns: bytes that have arrived, an error, or nothing in time. -/
inductive ReadOutcome where
  | data (bytes : Bytes)
  | failed (message : String)
  | timeout
  deriving DecidableEq

/-- What a write to the stream returns. -/
inductive WriteOutcome where
  | written
  | failed (message : String)
  | timeout
  deriving DecidableEq

/-- What one request meets on the line. The bytes may belong to any frame: the answer, a late or
    repeated answer to an earlier request, or the frame of another meter. -/
structure Exchange where
  write : WriteOutcome
  reads : ℕ → ReadOutcome

/-- The complete frame in the bytes received so far. -/
def completeFrame (buf : Bytes) : Option Bytes :=
  if 14 ≤ buf.length then
    match buf.findIdx? (· == frameStart) with
    | none => none
    | some start =>
      let expectedLen := 10 + (buf.getD (start + 9) 0).toNat + 2
      if start + 9 < buf.length ∧ start + expectedLen ≤ buf.length then
        some ((buf.take (start + expectedLen)).drop start)
      else none
  else none

section Complete

variable {noise frame more buf data : Bytes} {addr : MeterAddress} {ctrl : UInt8}

/-- The bytes of a frame in a buffer, behind what has come before it. -/
theorem getD_of_stream {later : Bytes} (h : buf ++ later = noise ++ frame ++ more) {i : ℕ}
    (hi : i < frame.length) (hbuf : noise.length + i < buf.length) :
    buf.getD (noise.length + i) 0 = frame.getD i 0 := by
  rw [← getD_append buf later _ _ hbuf, h, append_assoc,
    getD_append_right _ _ _ _ (Nat.le_add_right _ _), Nat.add_sub_cancel_left,
    getD_append _ _ _ _ hi]

/-- While what has arrived agrees with a stream, a complete frame is the first frame in it. -/
theorem completeFrame_eq (hnoise : frameStart ∉ noise) (hframe : Framed addr ctrl data frame)
    (hbuf : buf <+: noise ++ frame ++ more) :
    completeFrame buf =
      if 14 ≤ buf.length ∧ noise.length + frame.length ≤ buf.length then some frame else none := by
  have hlen := hframe.length_eq
  obtain ⟨later, hlater⟩ := hbuf
  have hbefore : ∀ j, j < noise.length → j < buf.length → buf.getD j 0 ≠ frameStart := by
    intro j hj hbuf hstart
    rw [← getD_append buf later _ _ hbuf, hlater, append_assoc, getD_append _ _ _ _ hj,
      getD_eq_getElem _ _ hj] at hstart
    exact hnoise (hstart ▸ getElem_mem hj)
  rw [completeFrame]
  by_cases h14 : 14 ≤ buf.length
  · rw [if_pos h14]
    by_cases hstart : noise.length < buf.length
    · have hfind : buf.findIdx? (· == frameStart) = some noise.length := by
        rw [findIdx?_eq_some_iff_getElem]
        refine ⟨hstart, ?_, fun j hj => ?_⟩
        · have h0 := getD_of_stream hlater (show 0 < frame.length by omega) hstart
          rw [Nat.add_zero, hframe.start] at h0
          rw [← getD_eq_getElem _ 0, h0]
          rfl
        · rw [← getD_eq_getElem _ 0]
          simpa using hbefore j hj (by omega)
      rw [hfind]
      dsimp only
      by_cases hsize : noise.length + 9 < buf.length
      · rw [getD_of_stream hlater (by omega) hsize, hframe.size]
        by_cases hfull : noise.length + frame.length ≤ buf.length
        · rw [if_pos (by omega), if_pos ⟨h14, hfull⟩,
            show noise.length + (10 + data.length + 2) = noise.length + frame.length by omega,
            ← take_append_of_le_length hfull, hlater, drop_take, Nat.add_sub_cancel_left,
            append_assoc, drop_left' rfl, take_left' rfl]
        · rw [if_neg (by omega), if_neg (by omega)]
      · rw [if_neg (by omega), if_neg (by omega)]
    · -- the frame has not begun
      have hnone : buf.findIdx? (· == frameStart) = none := by
        rw [findIdx?_eq_none_iff]
        intro byte hbyte
        obtain ⟨j, hj, rfl⟩ := getElem_of_mem hbyte
        rw [← getD_eq_getElem _ 0]
        simpa using hbefore j (by omega) hj
      rw [hnone, if_neg (by omega)]
  · rw [if_neg h14, if_neg (by omega)]

/-- A complete frame stands behind bytes that do not begin one. -/
theorem completeFrame_eq_some (h : completeFrame buf = some frame) :
    ∃ noise, frameStart ∉ noise ∧ noise ++ frame <+: buf := by
  unfold completeFrame at h
  split_ifs at h
  split at h
  · cases h
  next start hstart =>
  dsimp only at h
  split_ifs at h with hfull
  cases h
  obtain ⟨hlt, -, hbefore⟩ := findIdx?_eq_some_iff_getElem.1 hstart
  refine ⟨buf.take start, fun hmem => ?_, ?_⟩
  · obtain ⟨j, hj, hbyte⟩ := getElem_of_mem hmem
    rw [length_take] at hj
    rw [getElem_take] at hbyte
    exact hbefore j (by omega) (by simp [hbyte])
  · rw [drop_take, Nat.add_sub_cancel_left, ← take_add]
    exact take_prefix _ _

end Complete

/-- The loop of `receive_frame` (lines 814-865), after `n` reads and with `fuel` more. -/
def receiveLoop (closedMsg : String) (reads : ℕ → ReadOutcome) :
    ℕ → ℕ → Bytes → Except ReadError Bytes
  | 0, _, _ => .error (.gateway (.protocol "Response too large"))
  | fuel + 1, n, buf =>
    match reads n with
    | .timeout => .error .readTimeout
    | .failed message => .error (.io message)
    | .data bytes =>
      match bytes.take (maxFrameSize - buf.length) with
      | [] => .error (.gateway (.connection closedMsg))
      | chunk =>
        match completeFrame (buf ++ chunk) with
        | some frame => .ok frame
        | none =>
          if maxFrameSize ≤ (buf ++ chunk).length then
            .error (.gateway (.protocol "Response too large"))
          else receiveLoop closedMsg reads fuel (n + 1) (buf ++ chunk)

/-- `receive_frame` (lines 814-865). -/
def receiveFrame (closedMsg : String) (reads : ℕ → ReadOutcome) : Except ReadError Bytes :=
  receiveLoop closedMsg reads maxFrameSize 0 []

theorem receiveLoop_data (closedMsg : String) {reads : ℕ → ReadOutcome} {fuel n : ℕ}
    {buf bytes chunk : Bytes} (hread : reads n = .data bytes)
    (hchunk : bytes.take (maxFrameSize - buf.length) = chunk) (hne : chunk ≠ []) :
    receiveLoop closedMsg reads (fuel + 1) n buf =
      match completeFrame (buf ++ chunk) with
      | some frame => .ok frame
      | none =>
        if maxFrameSize ≤ (buf ++ chunk).length then
          .error (.gateway (.protocol "Response too large"))
        else receiveLoop closedMsg reads fuel (n + 1) (buf ++ chunk) := by
  rw [receiveLoop, hread]
  dsimp only
  rw [hchunk]
  cases chunk with
  | nil => exact absurd rfl hne
  | cons byte chunk => rfl

/-- Every read that goes on adds a byte, so more fuel than the buffer has room changes nothing. -/
theorem receiveLoop_stable (closedMsg : String) (reads : ℕ → ReadOutcome) {fuel n : ℕ} {buf : Bytes}
    (hroom : buf.length < maxFrameSize) (hfuel : maxFrameSize ≤ buf.length + fuel) :
    receiveLoop closedMsg reads (fuel + 1) n buf = receiveLoop closedMsg reads fuel n buf := by
  induction fuel generalizing n buf with
  | zero => omega
  | succ fuel ih =>
    rw [receiveLoop, receiveLoop.eq_def _ _ (fuel + 1)]
    dsimp only
    cases reads n with
    | timeout => rfl
    | failed message => rfl
    | data bytes =>
      dsimp only
      rcases hchunk : bytes.take (maxFrameSize - buf.length) with _ | ⟨byte, chunk⟩
      · rfl
      dsimp only
      cases completeFrame (buf ++ byte :: chunk) with
      | some frame => rfl
      | none =>
        dsimp only
        split_ifs with hfull
        · rfl
        rw [not_le] at hfull
        refine ih hfull ?_
        rw [length_append, length_cons]
        omega

/-- `transact_stream` (lines 800-811). -/
def transact (closedMsg : String) (exchange : Exchange) : Except ReadError Bytes :=
  match exchange.write with
  | .timeout => .error .writeTimeout
  | .failed message => .error (.io message)
  | .written => receiveFrame closedMsg exchange.reads

end AetherEdge.Io.Dl645
