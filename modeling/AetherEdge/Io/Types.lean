import AetherEdge.Common.Float64

/-!
# Channel types

The types that the parts of the I/O service share (`services/io/src/core/channels/types.rs`,
`libs/aether-core/src/types.rs`).
-/

namespace AetherEdge.Io

/-- `types.rs:17-51`. -/
inductive PointType where
  | telemetry
  | signal
  | control
  | adjustment
  deriving DecidableEq, Repr

/-- `types.rs:103-134`. -/
inductive ChannelCommand where
  | control (commandId : String) (pointId : UInt32) (value : F64) (timestamp expiresAtMs : Int64)
  | adjustment (commandId : String) (pointId : UInt32) (value : F64) (timestamp expiresAtMs : Int64)
  | batchControl (commandId : String) (points : List (UInt32 × F64)) (timestamp expiresAtMs : Int64)
  | batchAdjustment (commandId : String) (points : List (UInt32 × F64))
      (timestamp expiresAtMs : Int64)
  deriving DecidableEq

end AetherEdge.Io
