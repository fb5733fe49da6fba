import AetherEdge.Common.Float64

/-!
# Points, samples and commands

The domain types of the physical data plane (`crates/aether-domain/src/point.rs`,
`src/command.rs`). What their constructors check is a field of the type.
-/

namespace AetherEdge.Domain

/-- `point.rs:7-16`. -/
inductive PointKind where
  | telemetry
  | status
  | command
  | action
  deriving DecidableEq, Repr

/-- `is_writable` (`point.rs:21-23`). -/
def PointKind.isWritable : PointKind → Bool
  | .command => true
  | .action => true
  | _ => false

/-- `is_acquisition_owned` (`point.rs:27-29`). -/
def PointKind.isAcquisitionOwned : PointKind → Bool
  | .telemetry => true
  | .status => true
  | _ => false

/-- `point.rs:167-176`. -/
inductive PointQuality where
  | good
  | uncertain
  | bad
  | unavailable
  deriving DecidableEq, Repr

/-- `point.rs:38-42`. -/
structure ChannelPointAddress where
  channelId : UInt32
  kind : PointKind
  pointId : UInt32
  owned : kind.isAcquisitionOwned = true
  deriving DecidableEq, Repr

/-- `point.rs:49-53`. -/
structure ChannelCommandAddress where
  channelId : UInt32
  kind : PointKind
  pointId : UInt32
  writable : kind.isWritable = true
  deriving DecidableEq, Repr

/-- `point.rs:216-222`. -/
structure AcquiredPointSample where
  address : ChannelPointAddress
  value : F64
  raw : F64
  timestamp : UInt64
  quality : PointQuality
  finite_value : value.isFinite = true
  finite_raw : raw.isFinite = true
  deriving DecidableEq, Repr

/-- `command.rs:198-204`. -/
structure PhysicalDeviceCommand where
  id : ℕ
  target : ChannelCommandAddress
  value : F64
  issuedAt : UInt64
  expiresAt : UInt64
  finite : value.isFinite = true
  window : issuedAt < expiresAt
  deriving DecidableEq, Repr

end AetherEdge.Domain
