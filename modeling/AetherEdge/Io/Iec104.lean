import AetherEdge.Domain
import AetherEdge.Io.ChannelRuntime
import AetherEdge.Io.PointConfig

/-!
# The IEC 104 adapter

Model of `Iec104Channel` (`services/io/src/protocols/adapters/iec104.rs`). The client of the protocol
is a library that is not part of the repository: its operations are a parameter, and what they come to
is decided by its state. So is the rounding to `f32`. The channel takes the conversion of received
points as a parameter too; the conversion itself follows the channel.

`poll_task` is never set, and nothing outside of the tests calls the adapter's own `poll`
(`iec104.rs`), the only caller of `handle_iec104_event`: the adapter never sends an event, and
its connection state is written by `connect` and `disconnect` alone.
-/

namespace AetherEdge.Io

/-- `Iec104Event` of the client, as far as the adapter tells its variants apart. -/
inductive Iec104Event (ι : Type) where
  | connected
  | disconnected
  | dataTransferStarted
  | dataTransferStopped
  | dataUpdate (points : List ι)
  | asduReceived
  | commandConfirm (ioa : UInt32) (success : Bool)
  | interrogationComplete
  | error (message : String)

/-- The operations of `Iec104Client` that the adapter calls; an error is its text. -/
structure Iec104Client (κ ι φ : Type) where
  connect : κ → Except String Unit × κ
  disconnect : κ → Except String Unit × κ
  startDt : κ → Except String Unit × κ
  stopDt : κ → Except String Unit × κ
  generalInterrogation : UInt16 → κ → Except String Unit × κ
  poll : κ → Except String (Option (Iec104Event ι)) × κ
  singleCommand : UInt16 → UInt32 → Bool → Bool → κ → Except String Unit × κ
  setpointFloat : UInt16 → UInt32 → φ → Bool → κ → Except String Unit × κ

/-- `iec104.rs:65-68`. -/
structure Iec104Address where
  ioa : UInt32
  typeId : UInt8
  deriving DecidableEq

/-- `Iec104Channel`, with the fields that its operations read or write. -/
structure Iec104Channel (κ : Type) where
  commonAddress : UInt16
  points : List (PointConfig Iec104Address)
  client : κ
  state : ConnectionState
  readCount : UInt64
  writeCount : UInt64
  errorCount : UInt64
  lastError : Option String
  eventRx : Bool

/-- What the library and the conversions of the adapter do. -/
structure Iec104Library (κ ι φ δ : Type) where
  client : Iec104Client κ ι φ
  arith : F64.Arithmetic
  asF32 : F64 → φ
  /-- `convert_data_points` -/
  convertDataPoints : List ι → PollResult δ

namespace Iec104Channel

variable {κ ι φ δ : Type} (lib : Iec104Library κ ι φ δ)

/-- `record_error` (`iec104.rs:620-622`). -/
def recordError (channel : Iec104Channel κ) (message : String) : Iec104Channel κ :=
  { channel with lastError := some message, errorCount := channel.errorCount + 1 }

/-- A call of the client, with its error as one of the adapter. -/
def call (error : String → GatewayError) (operation : κ → Except String Unit × κ)
    (channel : Iec104Channel κ) : Except GatewayError Unit × Iec104Channel κ :=
  let (result, client) := operation channel.client
  (result.mapError error, { channel with client := client })

/-- `connect` (`iec104.rs:878-893`). -/
def connect (channel : Iec104Channel κ) : Except GatewayError Unit × Iec104Channel κ :=
  match lib.client.connect channel.client with
  | (.ok (), client) => (.ok (), { channel with client := client, state := .connected })
  | (.error message, client) =>
    (.error (.connection message),
      { channel with client := client, state := .error }.recordError message)

/-- `disconnect` (`iec104.rs:895-912`). -/
def disconnect (channel : Iec104Channel κ) : Except GatewayError Unit × Iec104Channel κ :=
  let channel := (call .protocol lib.client.stopDt channel).2
  match lib.client.disconnect channel.client with
  | (.ok (), client) => (.ok (), { channel with client := client, state := .disconnected })
  | (.error message, client) => (.error (.connection message), { channel with client := client })

/-- `poll_once` (`iec104.rs:914-939`). -/
def pollOnce (channel : Iec104Channel κ) : PollResult δ × Iec104Channel κ :=
  match lib.client.poll channel.client with
  | (.error _, client) =>
    (⟨[], []⟩, { channel with client := client, errorCount := channel.errorCount + 1 })
  | (.ok (some (.dataUpdate points)), client) =>
    let result := lib.convertDataPoints points
    (result, { channel with
      client := client
      readCount := if result.data.isEmpty then channel.readCount else channel.readCount + 1 })
  | (.ok _, client) => (⟨[], []⟩, { channel with client := client })

/-- The message of a control command, if it is sent. -/
def controlMessage (points : List (PointConfig Iec104Address)) (command : UInt32 × F64) :
    Option (UInt32 × Bool) :=
  (findPoint points command.1).map fun point => (point.address.ioa, !command.2.eq .zero)

/-- The message of an adjustment command, if it is sent. -/
def adjustmentMessage (points : List (PointConfig Iec104Address)) (command : UInt32 × F64) :
    Option (UInt32 × φ) :=
  match findPoint points command.1 with
  | none => none
  | some point =>
    match point.transform.reverseApply lib.arith command.2 with
    | .error _ => none
    | .ok raw => some (point.address.ioa, lib.asF32 raw)

/-- The end of `write_adjustment` (`iec104.rs:805-840`). -/
def written (channel : Iec104Channel κ) (result : ℕ × κ) :
    Except GatewayError ℕ × Iec104Channel κ :=
  (.ok result.1, { channel with
    client := result.2
    writeCount := channel.writeCount + UInt64.ofNat result.1 })

/-- `write_control` (`iec104.rs:841-869`). -/
def writeControl (commands : List (UInt32 × F64)) (channel : Iec104Channel κ) :
    Except GatewayError ℕ × Iec104Channel κ :=
  channel.written (sendAll
    (fun message => lib.client.singleCommand channel.commonAddress message.1 message.2 false)
    (commands.filterMap (controlMessage channel.points)) 0 channel.client)

/-- `write_adjustment` (`iec104.rs:805-840`). -/
def writeAdjustment (commands : List (UInt32 × F64)) (channel : Iec104Channel κ) :
    Except GatewayError ℕ × Iec104Channel κ :=
  channel.written (sendAll
    (fun message => lib.client.setpointFloat channel.commonAddress message.1 message.2 false)
    (commands.filterMap (adjustmentMessage lib channel.points)) 0 channel.client)

/-- `start_events` (`iec104.rs:963-968`). -/
def startEvents (channel : Iec104Channel κ) : Except GatewayError Unit × Iec104Channel κ :=
  match call .protocol lib.client.startDt channel with
  | (.error error, channel) => (.error error, channel)
  | (.ok (), channel) =>
    call .protocol (lib.client.generalInterrogation channel.commonAddress) channel

/-- `stop_events` (`iec104.rs:970-976`). -/
def stopEvents (channel : Iec104Channel κ) : Except GatewayError Unit × Iec104Channel κ :=
  call .protocol lib.client.stopDt channel

/-- `diagnostics` (`iec104.rs:978-1009`). -/
def diagnostics (channel : Iec104Channel κ) : Diagnostics :=
  ⟨"IEC 60870-5-104", channel.state, channel.readCount, channel.writeCount, channel.errorCount,
    channel.lastError⟩

/-- `ChannelRuntime for Iec104Channel`. -/
def runtime : ChannelRuntime (Iec104Channel κ) δ GatewayError where
  isEventDriven _ := true
  connect := connect lib
  disconnect := disconnect lib
  pollOnce := pollOnce lib
  writeControl := writeControl lib
  writeAdjustment := writeAdjustment lib
  takeEventReceiver channel := (channel.eventRx, { channel with eventRx := false })
  startEvents := startEvents lib
  stopEvents := stopEvents lib
  diagnostics channel := .ok channel.diagnostics
  connectionState channel := channel.state
  setLogConfig _ channel := channel

/-! ## Only `connect` and `disconnect` write the state -/

theorem state_pollOnce (channel : Iec104Channel κ) :
    (pollOnce lib channel).2.state = channel.state := by
  unfold pollOnce
  split <;> rfl

end Iec104Channel

/-! ## The conversion of received points -/

/-- `DoublePointValue` of the client. -/
inductive DoublePointValue where
  | off
  | on
  | indeterminate
  | indeterminateOrFaulty

/-- `DataValue` of the client over its `f32`; the integers as the `i64` they are cast to. -/
inductive Iec104Value (φ : Type) where
  | single (value : Bool)
  | double (value : DoublePointValue)
  | normalized (value : φ)
  | float (value : φ)
  | scaled (value : Int64)
  | counter (value : Int64)
  | bitstring (value : Int64)
  | stepPosition (value : Int64)
  | binaryCounter (value : Int64)

/-- An information object: `DataPoint` of the client, without its time. -/
structure InformationObject (φ ω : Type) where
  ioa : UInt32
  value : Iec104Value φ
  quality : ω

/-- `data.rs:25-34`. -/
inductive Value where
  | float (value : F64)
  | integer (value : Int64)
  | bool (value : Bool)
  deriving DecidableEq

/-- `DataPoint`, without its times. -/
structure DataPoint where
  id : UInt32
  pointType : PointType
  value : Value
  quality : Domain.PointQuality
  deriving DecidableEq

/-- The casts and rounded operations, and what the client tells of a quality. -/
structure Iec104Numbers (φ ω : Type) where
  isFinite : φ → Bool
  asF64 : φ → F64
  ofInt : Int64 → F64
  mul : F64 → F64 → F64
  add : F64 → F64 → F64
  isGood : ω → Bool
  invalid : ω → Bool

section Convert

variable {φ ω : Type} (num : Iec104Numbers φ ω) (points : List (PointConfig Iec104Address))

/-- The map that `with_points` (`iec104.rs:241-249`) fills. -/
def ioaMapping (ioa : UInt32) : Option (UInt32 × PointType) :=
  lastEntry (points.map fun point => (point.address.ioa, point.id, point.pointType)) ioa

/-- `convert_iec104_value` (`iec104.rs:650-676`). -/
def convertIec104Value : Iec104Value φ → Except String Value
  | .single value => .ok (.bool value)
  | .double .off => .ok (.bool false)
  | .double .on => .ok (.bool true)
  | .double .indeterminate | .double .indeterminateOrFaulty =>
    .error "IEC 104 double-point value is indeterminate"
  | .normalized value | .float value =>
    if num.isFinite value then .ok (.float (num.asF64 value))
    else .error "IEC 104 floating-point value is not finite"
  | .scaled value | .counter value | .bitstring value | .stepPosition value | .binaryCounter value =>
    .ok (.integer value)

/-- `convert_iec104_quality` (`iec104.rs:719-727`). -/
def convertIec104Quality (quality : ω) : Domain.PointQuality :=
  if num.isGood quality then .good else if num.invalid quality then .bad else .uncertain

/-- `convert_data_points` (`iec104.rs:573-617`). -/
def convertDataPoints : List (InformationObject φ ω) → PollResult DataPoint
  | [] => ⟨[], []⟩
  | object :: rest =>
    let (id, pointType) := (ioaMapping points object.ioa).getD (object.ioa, .telemetry)
    let result := convertDataPoints rest
    match convertIec104Value num object.value with
    | .error error => { result with failures := (id, error) :: result.failures }
    | .ok value =>
      { result with
        data := ⟨id, pointType, value, convertIec104Quality num object.quality⟩ :: result.data }

/-- `as_f64` (`data.rs:38-44`); it never fails. -/
def Value.asF64 : Value → F64
  | .float value => value
  | .integer value => num.ofInt value
  | .bool value => if value then .one else .zero

/-- A value under a transform, as the other adapters apply it. -/
def TransformConfig.transformed (transform : TransformConfig) : Value → Value
  | .float value => .float (num.add (num.mul value transform.scale) transform.offset)
  | .integer value => .float (num.add (num.mul (num.ofInt value) transform.scale) transform.offset)
  | .bool value => .bool (transform.applyBool value)

/-- A telemetry or status point, at the address of the object. -/
def Acquires (point : PointConfig Iec104Address) (object : InformationObject φ ω) : Prop :=
  (point.pointType = .telemetry ∨ point.pointType = .signal) ∧ point.address.ioa = object.ioa

/-- The transform of a point leaves the number of a value as it is. -/
def Leaves (point : PointConfig Iec104Address) (value : Value) : Prop :=
  (value.asF64 num).eq ((point.transform.transformed num value).asF64 num)

/-- A sample of the object is one of a telemetry or status point there, with its transform applied. -/
def SampleOf (object : InformationObject φ ω) (sample : DataPoint) : Prop :=
  ∃ point ∈ points, Acquires point object ∧ sample.id = point.id ∧
    sample.pointType = point.pointType ∧ ∃ value, convertIec104Value num object.value = .ok value ∧
      (sample.value.asF64 num).eq ((point.transform.transformed num value).asF64 num)

variable {num points}

/-- The transforms are never applied, an object at an unknown address becomes a telemetry point of that
    number, and of the points at one address the last one counts, whatever its type. -/
theorem samples_of_points_iff (objects : List (InformationObject φ ω)) :
    (convertDataPoints num points objects).data =
      objects.flatMap (fun object => (convertDataPoints num points [object]).data) ∧
    ((∀ object ∈ objects, ∀ sample ∈ (convertDataPoints num points [object]).data,
      SampleOf num points object sample) ↔
    ∀ object ∈ objects, ∀ value, convertIec104Value num object.value = .ok value →
      ∃ point ∈ points, Acquires point object ∧ Leaves num point value ∧
        ioaMapping points object.ioa = some (point.id, point.pointType)) := by
  constructor
  · induction objects with
    | nil => rfl
    | cons object rest ih =>
      rw [List.flatMap_cons, ← ih]
      cases hvalue : convertIec104Value num object.value <;> simp [convertDataPoints, hvalue]
  refine forall₂_congr fun object _ => ?_
  cases hvalue : convertIec104Value num object.value with
  | error error => simp [convertDataPoints, hvalue]
  | ok value =>
    simp only [convertDataPoints, hvalue, List.mem_singleton, forall_eq, Except.ok.injEq, forall_eq']
    refine exists_congr fun point => and_congr_right fun hmem => and_congr_right fun hacquires => ?_
    simp only [hvalue, Except.ok.injEq, exists_eq_left', Leaves]
    cases hentry : ioaMapping points object.ioa with
    | none =>
      -- there is an entry, that of the point
      refine absurd ?_ (lastEntry_eq_none.1 hentry (point.id, point.pointType))
      exact List.mem_map.2 ⟨point, hmem, by rw [hacquires.2]⟩
    | some entry => simp [Prod.ext_iff, and_comm, and_assoc]

/-- A status point that is configured as reversed, and the object that reports it on. -/
def reversedPoint : PointConfig Iec104Address := ⟨1, .signal, ⟨100, 1⟩, ⟨.one, .zero, true⟩⟩

/-- Numbers for objects that hold none. -/
def noNumbers : Iec104Numbers Unit Unit :=
  ⟨fun _ => false, fun _ => .zero, fun _ => .zero, fun a _ => a, fun a _ => a, fun _ => true,
    fun _ => false⟩

/-- The point is reported on, and so is one that nobody configured. -/
theorem reversed_point_reported_raw :
    (convertDataPoints noNumbers [reversedPoint]
      [⟨100, .single true, ()⟩, ⟨7, .single true, ()⟩]).data =
        [⟨1, .signal, .bool true, .good⟩, ⟨7, .telemetry, .bool true, .good⟩] ∧
    ¬ SampleOf noNumbers [reversedPoint] ⟨100, .single true, ()⟩ ⟨1, .signal, .bool true, .good⟩ := by
  refine ⟨by decide, ?_⟩
  rintro ⟨point, hmem, -, -, -, value, hvalue, heq⟩
  cases List.mem_singleton.1 hmem
  cases hvalue
  exact absurd heq (by decide)

end Convert

end AetherEdge.Io
