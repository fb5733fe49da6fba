import AetherEdge.Io.Types

/-!
# Protocol adapters

The interface between the channel task and a protocol adapter (`ChannelRuntime`,
`services/io/src/protocols/runtime.rs`) and the types it uses
(`services/io/src/protocols/core/traits.rs`).

An adapter is a state `σ` with operations on it. What the device and the network will do is part of
the state, so that an operation is a function of it; `δ` are the points of a batch and `ε` the
errors.
-/

namespace AetherEdge.Io

/-- `ConnectionState` of the adapters. -/
inductive ConnectionState where
  | disconnected
  | connecting
  | connected
  | reconnecting
  | error
  deriving DecidableEq, Repr

/-- `is_connected` (`traits.rs:88-90`). -/
def ConnectionState.isConnected (state : ConnectionState) : Bool := state == .connected

/-- `ConnectionState` of the channels, as far as an adapter's state is converted to it. -/
inductive ChannelConnectionState where
  | connecting
  | connected
  | disconnected
  | retrying
  | failed
  deriving DecidableEq, Repr

/-- `From<ConnectionState>`. -/
def ConnectionState.toChannel : ConnectionState → ChannelConnectionState
  | .connected => .connected
  | .connecting => .connecting
  | .reconnecting => .retrying
  | .disconnected => .disconnected
  | .error => .failed

/-- `traits.rs:219-225`. -/
structure PollResult (δ : Type) where
  data : List δ
  failures : List (UInt32 × String)

/-- `Diagnostics`, without `extra`. -/
structure Diagnostics where
  protocol : String
  connectionState : ConnectionState
  readCount : UInt64
  writeCount : UInt64
  errorCount : UInt64
  lastError : Option String
  deriving DecidableEq

/-- `traits.rs:345-357`. -/
inductive DataEvent (δ : Type) where
  | dataUpdate (batch : List δ)
  | connectionChanged (state : ConnectionState)
  | error (message : String)
  | heartbeat

/-- The log configurations that the task sets (core/logging.rs). -/
inductive ChannelLogConfig where
  | all
  | standard
  | errorsOnly
  deriving DecidableEq, Repr

/-- `runtime.rs:25-98`. -/
structure ChannelRuntime (σ δ ε : Type) where
  isEventDriven : σ → Bool
  connect : σ → Except ε Unit × σ
  disconnect : σ → Except ε Unit × σ
  pollOnce : σ → PollResult δ × σ
  writeControl : List (UInt32 × F64) → σ → Except ε ℕ × σ
  writeAdjustment : List (UInt32 × F64) → σ → Except ε ℕ × σ
  /-- whether there is a receiver to take -/
  takeEventReceiver : σ → Bool × σ
  startEvents : σ → Except ε Unit × σ
  stopEvents : σ → Except ε Unit × σ
  diagnostics : σ → Except ε Diagnostics
  connectionState : σ → ConnectionState
  setLogConfig : ChannelLogConfig → σ → σ

namespace ChannelRuntime

variable {σ δ ε : Type} (runtime : ChannelRuntime σ δ ε)

/-- The adapter reports a connection. -/
def online (protocol : σ) : Bool := (runtime.connectionState protocol).isConnected

/-- `connect_and_start_events` (`channel_task.rs:84-95`). -/
def connectAndStartEvents (protocol : σ) : Except ε Unit × σ :=
  match runtime.connect protocol with
  | (.error error, protocol) => (.error error, protocol)
  | (.ok (), protocol) =>
    if runtime.isEventDriven protocol then
      match runtime.startEvents protocol with
      | (.error error, protocol) => (.error error, (runtime.disconnect protocol).2)
      | (.ok (), protocol) => (.ok (), protocol)
    else (.ok (), protocol)

/-- `stop_events_and_disconnect` (`channel_task.rs:98-108`); its result is ignored everywhere. -/
def stopEventsAndDisconnect (protocol : σ) : σ :=
  let protocol := if runtime.isEventDriven protocol then (runtime.stopEvents protocol).2 else protocol
  (runtime.disconnect protocol).2

end ChannelRuntime

end AetherEdge.Io
