import AetherEdge.Io.Types

/-!
# Channel configurations

The points of a channel (`libs/aether-config/src/io.rs`,
`services/io/src/core/channels/runtime_config.rs`), with the fields that the command guard and the
protocol converters read.
-/

namespace AetherEdge.Io

/-- `io.rs:170-187`. -/
structure Point where
  pointId : UInt32
  protocolMappings : Option String
  deriving DecidableEq

/-- `io.rs:195-218`. -/
structure TelemetryPoint where
  base : Point
  scale : F64
  offset : F64
  reverse : Bool
  deriving DecidableEq

/-- `io.rs:224-233`. -/
structure SignalPoint where
  base : Point
  reverse : Bool
  deriving DecidableEq

/-- `io.rs:239-263`. -/
structure ControlPoint where
  base : Point
  reverse : Bool
  onValue : UInt16
  offValue : UInt16
  deriving DecidableEq

/-- `io.rs:269-295`. -/
structure AdjustmentPoint where
  base : Point
  minValue : Option F64
  maxValue : Option F64
  step : F64
  scale : F64
  offset : F64
  deriving DecidableEq

/-- `runtime_config.rs:13-20`. -/
structure RuntimeChannelConfig where
  id : UInt32
  telemetryPoints : List TelemetryPoint
  signalPoints : List SignalPoint
  controlPoints : List ControlPoint
  adjustmentPoints : List AdjustmentPoint
  deriving DecidableEq

end AetherEdge.Io
