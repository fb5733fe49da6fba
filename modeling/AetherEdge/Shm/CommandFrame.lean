import AetherEdge.Common.Binary
import AetherEdge.Domain

/-!
# The command frame

Model of `DeviceCommandFrame` (`libs/aether-shm-bridge/src/command_sink.rs`), the
56 bytes a command takes on the local socket. Sender and listener run on one machine, whose byte
order is a parameter.

* `length_toBytes`, `fromBytes_toBytes`: every frame has 56 bytes and is read back from them.
-/

namespace AetherEdge.Shm

open Domain

/-- Lines 607-617. -/
structure DeviceCommandFrame where
  channelId : UInt32
  pointId : UInt32
  pointType : UInt8
  padding : Vector UInt8 7
  valueBits : UInt64
  timestampMs : UInt64
  expiresAtMs : UInt64
  producerId : UInt64
  sequence : UInt64
  deriving DecidableEq

/-- `<[u8; n]>::try_from(bytes).unwrap_or([0; n])`. -/
def toArray (n : ℕ) (bytes : Bytes) : Vector UInt8 n :=
  if h : bytes.length = n then ⟨bytes.toArray, h⟩ else Vector.replicate n 0

theorem toArray_toList {n : ℕ} (bytes : Vector UInt8 n) : toArray n bytes.toList = bytes := by
  rw [toArray, dif_pos (by simp)]
  cases bytes
  simp

namespace DeviceCommandFrame

/-- Line 621. -/
def size : ℕ := 56

/-- The code in `DeviceCommandFrame::new` (lines 623-650). -/
def pointTypeCode : PointKind → Option UInt8
  | .command => some 2
  | .action => some 3
  | .telemetry => none
  | .status => none

/-- `DeviceCommandFrame::new` (lines 623-650), for a kind that has a code. -/
def build (command : PhysicalDeviceCommand) (pointType : UInt8) (producerId sequence : UInt64) :
    DeviceCommandFrame where
  channelId := command.target.channelId
  pointId := command.target.pointId
  pointType := pointType
  padding := Vector.replicate 7 0
  valueBits := command.value.bits
  timestampMs := command.issuedAt
  expiresAtMs := command.expiresAt
  producerId := producerId
  sequence := sequence

/-- `point_kind` (lines 704-710). -/
def pointKind (frame : DeviceCommandFrame) : Option PointKind :=
  if frame.pointType = 2 then some .command
  else if frame.pointType = 3 then some .action
  else none

/-- `value` (lines 714-716). -/
def value (frame : DeviceCommandFrame) : F64 := ⟨frame.valueBits⟩

variable (endian : Endian)

/-- `to_bytes` (lines 670-682). -/
def toBytes (frame : DeviceCommandFrame) : Bytes :=
  endian.encode 4 frame.channelId.toNat ++ (endian.encode 4 frame.pointId.toNat ++
    ([frame.pointType] ++ (frame.padding.toList ++ (endian.encode 8 frame.valueBits.toNat ++
      (endian.encode 8 frame.timestampMs.toNat ++ (endian.encode 8 frame.expiresAtMs.toNat ++
        (endian.encode 8 frame.producerId.toNat ++ endian.encode 8 frame.sequence.toNat)))))))

/-- `from_bytes` (lines 654-666). The source takes an array of 56 bytes. -/
def fromBytes (bytes : Bytes) : DeviceCommandFrame where
  channelId := UInt32.ofNat (endian.decode (bytesAt bytes 0 4))
  pointId := UInt32.ofNat (endian.decode (bytesAt bytes 4 4))
  pointType := bytes.getD 8 0
  padding := toArray 7 (bytesAt bytes 9 7)
  valueBits := UInt64.ofNat (endian.decode (bytesAt bytes 16 8))
  timestampMs := UInt64.ofNat (endian.decode (bytesAt bytes 24 8))
  expiresAtMs := UInt64.ofNat (endian.decode (bytesAt bytes 32 8))
  producerId := UInt64.ofNat (endian.decode (bytesAt bytes 40 8))
  sequence := UInt64.ofNat (endian.decode (bytesAt bytes 48 8))

@[simp] theorem length_toBytes (frame : DeviceCommandFrame) :
    (frame.toBytes endian).length = size := by
  simp [toBytes, size]

theorem ofNat_decode_u32 (n : UInt32) :
    UInt32.ofNat (endian.decode (endian.encode 4 n.toNat)) = n := by
  rw [endian.decode_encode (lt_of_lt_of_eq n.toNat_lt (by norm_num)), UInt32.ofNat_toNat]

theorem ofNat_decode_u64 (n : UInt64) :
    UInt64.ofNat (endian.decode (endian.encode 8 n.toNat)) = n := by
  rw [endian.decode_encode (lt_of_lt_of_eq n.toNat_lt (by norm_num)), UInt64.ofNat_toNat]

theorem fromBytes_toBytes (frame : DeviceCommandFrame) :
    fromBytes endian (frame.toBytes endian) = frame := by
  have hpad : frame.padding.toList.length = 7 := by simp
  have henc (width n : ℕ) : bytesAt (endian.encode width n) 0 width = endian.encode width n :=
    bytesAt_eq_self (endian.length_encode width n)
  have htype : (frame.toBytes endian).getD 8 0 = frame.pointType := by
    simp [toBytes, List.getD_eq_getElem?_getD]
  unfold fromBytes
  rw [htype]
  cases frame with
  | mk channelId pointId pointType padding valueBits timestampMs expiresAtMs producerId sequence =>
    simp (disch := simp) only [toBytes, bytesAt_append_right, bytesAt_append_left,
      Endian.length_encode, List.length_singleton, hpad, Nat.reduceSub, Nat.sub_self, henc,
      bytesAt_eq_self hpad, toArray_toList, ofNat_decode_u32, ofNat_decode_u64]

end DeviceCommandFrame

end AetherEdge.Shm
