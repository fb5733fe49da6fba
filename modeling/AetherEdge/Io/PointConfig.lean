import AetherEdge.Common.LastEntry
import AetherEdge.Io.ChannelConfig

/-!
# Points of an adapter

Model of the conversion of a channel's configured points into the points of an adapter
(`services/io/src/core/channels/converters.rs`) and of the transforms of their values
(`services/io/src/protocols/core/point.rs`).

The points of all four types end up in one list, and an adapter looks a point up by its id alone. The
decoder of the mapping text belongs to the adapter and is a parameter here.
-/

namespace AetherEdge.Io

/-- The errors of `GatewayError` that these adapters return. -/
inductive GatewayError where
  | connection (message : String)
  | protocol (message : String)
  | invalidResponse (message : String)
  | unsupported (message : String)
  | invalidData (message : String)
  | dataConversion (message : String)
  | config (message : String)
  | io (message : String)
  deriving DecidableEq, Repr

/-- The `Display` of `GatewayError` (`error.rs:10-97`). -/
def GatewayError.text : GatewayError → String
  | .connection message => "Connection error: " ++ message
  | .protocol message => "Protocol error: " ++ message
  | .invalidResponse message => "Invalid response: " ++ message
  | .unsupported message => "Unsupported: " ++ message
  | .invalidData message => "Invalid data: " ++ message
  | .dataConversion message => "Data conversion error: " ++ message
  | .config message => "Configuration error: " ++ message
  | .io message => "IO error: " ++ message

/-- `TransformConfig`, with the fields that a transform reads. -/
structure TransformConfig where
  scale : F64
  offset : F64
  reverse : Bool
  deriving DecidableEq

/-- `point.rs:10-16`. -/
structure PointConfig (A : Type) where
  id : UInt32
  pointType : PointType
  address : A
  transform : TransformConfig
  deriving DecidableEq

/-- `reverse_apply` (`point.rs:198-205`). -/
def TransformConfig.reverseApply (arith : F64.Arithmetic) (transform : TransformConfig)
    (value : F64) : Except GatewayError F64 :=
  if transform.scale.eq .zero then
    .error (.dataConversion "Cannot reverse transform: scale is zero")
  else .ok (arith.div (arith.sub value transform.offset) transform.scale)

/-- `apply_bool` (`point.rs:207-209`). -/
def TransformConfig.applyBool (transform : TransformConfig) (raw : Bool) : Bool :=
  if transform.reverse then !raw else raw

/-- What `PointConvertible` tells of a point. -/
structure Convertible where
  base : Point
  pointType : PointType
  transform : TransformConfig

/-- `PointConvertible for TelemetryPoint`. -/
def TelemetryPoint.convertible (point : TelemetryPoint) : Convertible :=
  ⟨point.base, .telemetry, ⟨point.scale, point.offset, point.reverse⟩⟩

/-- `PointConvertible for SignalPoint`. -/
def SignalPoint.convertible (point : SignalPoint) : Convertible :=
  ⟨point.base, .signal, ⟨.one, .zero, point.reverse⟩⟩

/-- `PointConvertible for ControlPoint`. -/
def ControlPoint.convertible (point : ControlPoint) : Convertible :=
  ⟨point.base, .control, ⟨.one, .zero, point.reverse⟩⟩

/-- `PointConvertible for AdjustmentPoint`. -/
def AdjustmentPoint.convertible (point : AdjustmentPoint) : Convertible :=
  ⟨point.base, .adjustment, ⟨point.scale, point.offset, false⟩⟩

/-- `is_ascii_whitespace`. -/
def isAsciiWhitespace (c : Char) : Bool :=
  c == ' ' || c == '\t' || c == '\n' || c == '\r' || c.toNat == 0x0c

/-- `mapped_protocol_json` (`converters.rs:164-183`); it never fails. -/
def mappedProtocolJson (base : Point) : Option String :=
  match base.protocolMappings with
  | none => none
  | some mapping =>
    let text := mapping.toList.filter fun c => !isAsciiWhitespace c
    if text = "null".toList ∨ text = ['\x7b', '\x7d'] then none else some mapping

section Convert

variable {A : Type} (protocol : String) (parse : String → Except GatewayError A)

/-- The point of an adapter, if the configured one is mapped. -/
def convertPoint (point : Convertible) : Option (Except GatewayError (PointConfig A)) :=
  (mappedProtocolJson point.base).map fun mapping =>
    match parse mapping with
    | .ok address => .ok ⟨point.base.pointId, point.pointType, address, point.transform⟩
    | .error error =>
      .error (.config (s!"invalid {protocol} mapping for point {point.base.pointId}: " ++ error.text))

/-- `convert_mapped_points` (`converters.rs:192-217`). -/
def convertMappedPoints (points : List Convertible) : Except GatewayError (List (PointConfig A)) :=
  (points.filterMap (convertPoint protocol parse)).mapM id

/-- `convert_all_mapped_points` (`converters.rs:259-290`). -/
def convertAllMappedPoints (config : RuntimeChannelConfig) :
    Except GatewayError (List (PointConfig A)) := do
  let telemetry ← convertMappedPoints protocol parse
    (config.telemetryPoints.map TelemetryPoint.convertible)
  let signal ← convertMappedPoints protocol parse (config.signalPoints.map SignalPoint.convertible)
  let control ← convertMappedPoints protocol parse
    (config.controlPoints.map ControlPoint.convertible)
  let adjustment ← convertMappedPoints protocol parse
    (config.adjustmentPoints.map AdjustmentPoint.convertible)
  return telemetry ++ signal ++ control ++ adjustment

end Convert

/-- `find_point` (`iec104.rs:625-629`): the index that the adapters collect from their points keeps
    the last one under an id. -/
def findPoint {A : Type} (points : List (PointConfig A)) (id : UInt32) : Option (PointConfig A) :=
  lastEntry (points.map fun point => (point.id, point)) id

/-- The loops of the writes: the messages go out in order, and those that the client takes are
    counted. -/
def sendAll {κ μ : Type} (send : μ → κ → Except String Unit × κ) : List μ → ℕ → κ → ℕ × κ
  | [], count, client => (count, client)
  | message :: rest, count, client =>
    let (result, client) := send message client
    sendAll send rest (if result.isOk then count + 1 else count) client

end AetherEdge.Io
