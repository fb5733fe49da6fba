import AetherEdge.Io.ChannelRuntime
import AetherEdge.Io.CommandGuard
import AetherEdge.Io.Reconnect

/-!
# The channel task

Model of `run_unified_channel_task` (`services/io/src/core/channels/channel_task.rs`): the loop that
owns the adapter of a channel and answers protocol commands, business commands, events and poll
ticks. An iteration of the loop is a step; which of its branches is taken is part of the step, so
that every interleaving is a run. A poll tick that waits before a reconnect attempt says how the wait
ends: it is over, or a protocol command came first.

The answers to protocol commands and the log are not part of the model. The state keeps a record of
what went out: the attempts to reconnect that the task has started, the online states it has
published and the writes it has handed to the adapter.
-/

namespace AetherEdge.Io

/-- `types.rs:150-173`. -/
inductive ProtocolCommand where
  | connect
  | disconnect
  | setLogLevel (level : String)
  | shutdown
  deriving DecidableEq

/-- Lines 34-41. -/
structure ChannelSharedState where
  cachedConnectionState : ChannelConnectionState
  cachedDiagnostics : Option Diagnostics
  watchdogHeartbeatMs : Int64
  reconnectTotalAttempts : UInt64
  reconnectFailed : Bool
  lastSuccessfulReadMs : Int64
  deriving DecidableEq

/-- Lines 60-70. -/
structure ChannelPollContext where
  zeroDataThreshold : UInt32
  commandGuard : CommandGuard

/-- The variables of the loop, the commands that wait for it, and the record of what it did. -/
structure ChannelTask (σ : Type) where
  protocol : σ
  helper : ReconnectHelper
  prevOnline : Option Bool
  prevErrorCount : UInt64
  consecutiveZeroData : UInt32
  failedLogTickCounter : UInt32
  eventRx : Bool
  shared : ChannelSharedState
  running : Bool
  /-- the commands in `business_rx` -/
  waiting : List ChannelCommand
  /-- the commands that were taken out of it, with the clock that was read then -/
  received : List (ChannelCommand × Int64)
  /-- the calls of `write_control` and `write_adjustment` -/
  writes : List (PointType × List (UInt32 × F64))
  /-- the reconnect attempts that a tick has started -/
  attempts : ℕ
  /-- the calls of `publish_channel_online` -/
  published : List Bool

/-- How the wait before an attempt ends. -/
inductive Backoff where
  | elapsed
  | command (command : ProtocolCommand)

/-- What a poll tick meets: the clocks it reads, how its wait ends, the state that an attempt leaves
    behind when it is cut off after 30 seconds, and whether the store takes the data. -/
structure Tick (σ : Type) where
  nowMs : Int64
  freshnessMs : Int64
  instant : ℕ
  attemptEnd : ℕ
  backoff : Backoff
  timedOut : Option σ
  stored : Bool

/-- A step. `enqueue` is a sender, and `background` what the tasks of the adapter do to its state. -/
inductive TaskInput (σ δ : Type) where
  | protocolCommand (command : ProtocolCommand)
  | enqueue (command : ChannelCommand)
  | businessCommand (nowMs : Int64)
  | event (event : DataEvent δ) (nowMs : Int64) (stored : Bool)
  | eventsClosed
  | tick (tick : Tick σ)
  | background (protocol : σ)

/-- Lines 368-375. -/
inductive TickAction where
  | continue
  | break
  | proceed
  deriving DecidableEq, Repr

section Task

variable {σ δ ε : Type} (runtime : ChannelRuntime σ δ ε) (ctx : ChannelPollContext)

namespace ChannelTask

/-- `update_cached_state` (lines 73-77). -/
def updateCachedState (task : ChannelTask σ) : ChannelTask σ :=
  { task with shared.cachedConnectionState := (runtime.connectionState task.protocol).toChannel }

/-- A new online state is published. -/
def publish (task : ChannelTask σ) (online : Bool) : ChannelTask σ :=
  if task.prevOnline = some online then task
  else { task with prevOnline := some online, published := task.published ++ [online] }

/-- `check_online_change` (lines 182-193). -/
def checkOnlineChange (task : ChannelTask σ) : ChannelTask σ :=
  task.publish (runtime.online task.protocol)

/-- `update_cached_state` and `check_online_change`, which are always called together. -/
def refresh (task : ChannelTask σ) : ChannelTask σ :=
  (task.updateCachedState runtime).checkOnlineChange runtime

/-- `apply_log_level` (lines 198-224). -/
def applyLogLevel (protocol : σ) (level : String) : σ :=
  match level.toLower with
  | "debug" | "verbose" => runtime.setLogConfig .all protocol
  | "info" | "standard" => runtime.setLogConfig .standard protocol
  | "error" | "minimal" => runtime.setLogConfig .errorsOnly protocol
  | _ => protocol

/-- `handle_protocol_command` (lines 380-413), without `Shutdown`, which the loop takes out. -/
def handleProtocolCommand (task : ChannelTask σ) (command : ProtocolCommand) : ChannelTask σ :=
  match command with
  | .connect => { task with protocol := (runtime.connectAndStartEvents task.protocol).2 }
  | .disconnect => { task with protocol := runtime.stopEventsAndDisconnect task.protocol }
  | .setLogLevel level => { task with protocol := applyLogLevel runtime task.protocol level }
  | .shutdown => task

/-- `protocol.write_control(points)` or `protocol.write_adjustment(points)`. -/
def write (task : ChannelTask σ) (pointType : PointType) (points : List (UInt32 × F64)) :
    ChannelTask σ :=
  let protocol :=
    if pointType = .control then (runtime.writeControl points task.protocol).2
    else (runtime.writeAdjustment points task.protocol).2
  { task with protocol := protocol, writes := task.writes ++ [(pointType, points)] }

/-- The points of a command and the times of its window. -/
def commandPoints : ChannelCommand → PointType × List (UInt32 × F64) × Int64 × Int64
  | .control _ pointId value timestamp expiresAtMs =>
    (.control, [(pointId, value)], timestamp, expiresAtMs)
  | .adjustment _ pointId value timestamp expiresAtMs =>
    (.adjustment, [(pointId, value)], timestamp, expiresAtMs)
  | .batchControl _ points timestamp expiresAtMs => (.control, points, timestamp, expiresAtMs)
  | .batchAdjustment _ points timestamp expiresAtMs =>
    (.adjustment, points, timestamp, expiresAtMs)

/-- The first point the guard rejects. -/
def firstRejected (pointType : PointType) (points : List (UInt32 × F64))
    (timestamp expiresAtMs nowMs : Int64) : Option (UInt32 × CommandGuardError) :=
  points.findSome? fun (pointId, value) =>
    match ctx.commandGuard.validate pointType pointId value timestamp expiresAtMs nowMs with
    | .ok () => none
    | .error error => some (pointId, error)

/-- `handle_business_command` (lines 416-544). Its four branches differ in the points of the command
    and in the call that gets them. -/
def handleBusinessCommand (task : ChannelTask σ) (command : ChannelCommand) (nowMs : Int64) :
    ChannelTask σ :=
  let (pointType, points, timestamp, expiresAtMs) := commandPoints command
  match firstRejected ctx pointType points timestamp expiresAtMs nowMs with
  | some _ => task
  | none => task.write runtime pointType points

/-- The write of `watchdog_heartbeat_ms`. -/
def beat (task : ChannelTask σ) (nowMs : Int64) : ChannelTask σ :=
  { task with shared.watchdogHeartbeatMs := nowMs }

/-- `handle_protocol_event` (lines 130-177). -/
def handleProtocolEvent (task : ChannelTask σ) (event : DataEvent δ) (nowMs : Int64)
    (stored : Bool) : ChannelTask σ :=
  match event with
  | .dataUpdate batch =>
    if batch.isEmpty then task
    else
      { task.beat nowMs with
        shared.lastSuccessfulReadMs := if stored then nowMs else task.shared.lastSuccessfulReadMs }
  | .connectionChanged state =>
    { task with shared.cachedConnectionState := state.toChannel }.publish state.isConnected
  | .error _ => task
  | .heartbeat => task.beat nowMs

/-- The helper and the flags after a connection. -/
def markConnected (task : ChannelTask σ) : ChannelTask σ :=
  { task with
    helper := task.helper.markConnected
    failedLogTickCounter := 0
    shared.reconnectFailed := false }

/-- `handle_backoff_command` (lines 799-830). -/
def handleBackoffCommand (task : ChannelTask σ) (command : ProtocolCommand) :
    Option TickAction × ChannelTask σ :=
  match command with
  | .shutdown => (some .break, task)
  | .connect =>
    match runtime.connectAndStartEvents task.protocol with
    | (.ok (), protocol) =>
      (none, { task with
        protocol := protocol
        helper := task.helper.markConnected
        failedLogTickCounter := 0 })
    | (.error _, protocol) => (none, { task with protocol := protocol })
  | .disconnect => (none, { task with protocol := runtime.stopEventsAndDisconnect task.protocol })
  | .setLogLevel level => (none, { task with protocol := applyLogLevel runtime task.protocol level })

/-- The attempt of `handle_disconnected` (lines 660-795). -/
def attemptReconnect (task : ChannelTask σ) (tick : Tick σ) : ChannelTask σ :=
  let task := { task with attempts := task.attempts + 1 }
  match tick.timedOut with
  | some protocol =>
    { task with
      protocol := protocol
      helper := task.helper.recordFailure tick.attemptEnd }.refresh runtime
  | none =>
    match runtime.connectAndStartEvents task.protocol with
    | (.ok (), protocol) => { task with protocol := protocol }.markConnected.refresh runtime
    | (.error _, protocol) =>
      { task with
        protocol := protocol
        helper := task.helper.recordFailure tick.attemptEnd }.refresh runtime

/-- The branch of `handle_disconnected` (lines 660-795) that gave up. -/
def handleFailed (task : ChannelTask σ) (tick : Tick σ) : ChannelTask σ :=
  let (recovered, helper) := task.helper.checkAutoRecovery tick.instant
  let task := { task with helper := helper }
  if recovered then
    { task with failedLogTickCounter := 0, shared.reconnectFailed := false }.refresh runtime
  else
    { task with
      failedLogTickCounter := task.failedLogTickCounter + 1
      shared.reconnectFailed := true }.refresh runtime

/-- `handle_disconnected` (lines 660-795). -/
def handleDisconnected (task : ChannelTask σ) (tick : Tick σ) : TickAction × ChannelTask σ :=
  let task := { task with shared.reconnectTotalAttempts := task.helper.totalAttempts }
  match task.helper.connectionState with
  | .failed => (.continue, task.handleFailed runtime tick)
  | .reconnecting => (.continue, task)
  | .connected | .disconnected =>
    let helper :=
      if task.helper.connectionState = .connected then task.helper.markDisconnected
      else task.helper
    match helper.recordAttempt tick.instant with
    | (false, helper) => (.continue, { task with helper := helper }.refresh runtime)
    | (true, helper) =>
      let task := { task with helper := helper }
      match tick.backoff with
      | .elapsed => (.continue, task.attemptReconnect runtime tick)
      | .command command =>
        if 1 < helper.totalAttempts then
          let (action, task) := task.handleBackoffCommand runtime command
          (action.getD .continue, task.refresh runtime)
        else (.continue, task.attemptReconnect runtime tick)

/-- The data of a poll. `none` when the tick ends with a disconnect. -/
def handlePollData (task : ChannelTask σ) (tick : Tick σ) (eventDriven : Bool)
    (data : List δ) : Option (ChannelTask σ) :=
  if data.isEmpty then
    if !eventDriven && decide (0 < ctx.zeroDataThreshold) then
      if ctx.zeroDataThreshold ≤ task.consecutiveZeroData + 1 then none
      else some { task with consecutiveZeroData := task.consecutiveZeroData + 1 }
    else some task
  else
    some { task with
      consecutiveZeroData := 0
      shared.lastSuccessfulReadMs :=
        if tick.stored then tick.freshnessMs else task.shared.lastSuccessfulReadMs }

/-- The diagnostics after a poll. -/
def cacheDiagnostics (task : ChannelTask σ) : ChannelTask σ :=
  match runtime.diagnostics task.protocol with
  | .error _ => task
  | .ok diagnostics =>
    { task with
      prevErrorCount := max task.prevErrorCount diagnostics.errorCount
      shared.cachedDiagnostics := some diagnostics }

/-- `handle_poll_tick` (lines 547-657). -/
def handlePollTick (task : ChannelTask σ) (tick : Tick σ) : TickAction × ChannelTask σ :=
  let eventDriven := runtime.isEventDriven task.protocol
  let task := task.beat tick.nowMs
  if !runtime.online task.protocol then task.handleDisconnected runtime tick
  else
    let task := if task.helper.connectionState = .connected then task else task.markConnected
    let (result, protocol) := runtime.pollOnce task.protocol
    let task := { task with protocol := protocol }
    match task.handlePollData ctx tick eventDriven result.data with
    | none =>
      (.proceed, { task with
        protocol := runtime.stopEventsAndDisconnect task.protocol
        consecutiveZeroData := 0 }.refresh runtime)
    | some task => (.proceed, (task.cacheDiagnostics runtime).refresh runtime)

/-- The end of the task. -/
def stop (task : ChannelTask σ) : ChannelTask σ :=
  { task with
    protocol := runtime.stopEventsAndDisconnect task.protocol
    shared.cachedConnectionState := .disconnected
    published := task.published ++ [false]
    running := false }

/-- What the loop does with the action of a tick. -/
def finishTick : TickAction × ChannelTask σ → ChannelTask σ
  | (.break, task) => task.stop runtime
  | (.continue, task) => task
  | (.proceed, task) => task

/-- One iteration of the loop, or what happens around it. -/
def iterate (task : ChannelTask σ) : TaskInput σ δ → ChannelTask σ
  | .protocolCommand command =>
    if command = .shutdown then task.stop runtime else task.handleProtocolCommand runtime command
  | .enqueue command => { task with waiting := task.waiting ++ [command] }
  | .businessCommand nowMs =>
    match task.waiting with
    | [] => task
    | command :: waiting =>
      { task with
        waiting := waiting
        received := task.received ++ [(command, nowMs)] }.handleBusinessCommand runtime ctx command
          nowMs
  | .event event nowMs stored =>
    if task.eventRx then task.handleProtocolEvent event nowMs stored else task
  | .eventsClosed => { task with eventRx := false }
  | .tick tick => finishTick runtime (task.handlePollTick runtime ctx tick)
  | .background protocol => { task with protocol := protocol }

/-- A step; a task that has ended takes none. -/
def step (task : ChannelTask σ) (input : TaskInput σ δ) : ChannelTask σ :=
  if task.running then task.iterate runtime ctx input else task

theorem step_running {task : ChannelTask σ} (h : task.running = true) (input : TaskInput σ δ) :
    task.step runtime ctx input = task.iterate runtime ctx input :=
  if_pos h

theorem step_stopped {task : ChannelTask σ} (h : task.running = false) (input : TaskInput σ δ) :
    task.step runtime ctx input = task :=
  if_neg (by simp [h])

end ChannelTask

/-- The task when its loop starts. -/
def startTask (policy : ReconnectPolicy) (autoRecovery : Option AutoRecoveryPolicy) (protocol : σ) :
    ChannelTask σ :=
  let (receiver, protocol) :=
    if runtime.isEventDriven protocol then runtime.takeEventReceiver protocol else (false, protocol)
  let helper := (autoRecovery.map (ReconnectHelper.new policy).withAutoRecovery).getD
    (ReconnectHelper.new policy)
  ChannelTask.refresh runtime
    { protocol := protocol
      helper := helper
      prevOnline := none
      prevErrorCount := 0
      consecutiveZeroData := 0
      failedLogTickCounter := 0
      eventRx := receiver
      shared := ⟨.connecting, none, 0, 0, false, 0⟩
      running := true
      waiting := []
      received := []
      writes := []
      attempts := 0
      published := [] }

end Task

end AetherEdge.Io
