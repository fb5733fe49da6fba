import AetherEdge.Common.Basic

/-!
# Capability ports

The types the port traits share (`crates/aether-ports/src/error.rs`) and those of the durable
outbox (`crates/aether-ports/src/outbox.rs`), with the mapping of I/O errors the local stores
use.
-/

namespace AetherEdge

/-- `error.rs:8-23`. -/
inductive PortErrorKind where
  | unavailable
  | timeout
  | notFound
  | rejected
  | invalidData
  | conflict
  | permanent
  deriving DecidableEq, Repr

/-- `{:?}` of an error kind. -/
def PortErrorKind.debug : PortErrorKind → String
  | .unavailable => "Unavailable"
  | .timeout => "Timeout"
  | .notFound => "NotFound"
  | .rejected => "Rejected"
  | .invalidData => "InvalidData"
  | .conflict => "Conflict"
  | .permanent => "Permanent"

/-- `error.rs:27-30`. -/
structure PortError where
  kind : PortErrorKind
  message : String
  deriving DecidableEq, Repr

/-- `error.to_string()`. -/
def PortError.toText (error : PortError) : String := s!"{error.kind.debug}: {error.message}"

/-- `error.rs:72`. -/
abbrev PortResult := Except PortError

/-! ## I/O errors -/

/-- The kinds of `std::io::Error` that the stores tell apart. -/
inductive IoErrorKind where
  | permissionDenied
  | invalidInput
  | invalidData
  | unsupported
  | alreadyExists
  | other
  deriving DecidableEq, Repr

/-- A `std::io::Error` and its rendered text. -/
structure IoError where
  kind : IoErrorKind
  text : String
  deriving DecidableEq, Repr

/-! ## The durable outbox -/

/-- `outbox.rs:29-33`. -/
structure OutboxMessage where
  destination : String
  payload : Bytes
  createdAt : UInt64
  deriving DecidableEq

/-- `outbox.rs:70-74`. -/
structure OutboxEntry where
  id : ℕ
  message : OutboxMessage
  attempts : UInt32
  deriving DecidableEq

end AetherEdge
