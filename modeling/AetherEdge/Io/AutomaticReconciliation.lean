import AetherEdge.Common.Binary
import AetherEdge.Io.ChannelMutator

/-!
# The automatic reconciler

`AutomaticIoReconciler` (`services/io/src/automatic_reconciliation.rs`) compares the desired state
in the tables with the snapshot it last applied and repairs the runtimes. A cycle
(`reconcileOnce`) is a program over the reconciler's ports; `CycleEnvironment.handle` answers them
with the commissioning adapter's own programs, run on a world whose tables other writers may
change and whose statements may fail at every step.
-/

namespace AetherEdge.Io

open Std (ExtTreeMap)

/-! ## Fingerprints -/

/-- Line 528. -/
abbrev Fingerprint := UInt64

namespace Fingerprint

/-- Line 531. -/
def offset : Fingerprint := 0xcbf29ce484222325

/-- Line 532. -/
def prime : Fingerprint := 0x00000100000001b3

/-- `bytes` (lines 543-548). -/
def bytes (fingerprint : Fingerprint) (value : Bytes) : Fingerprint :=
  value.foldl (fun hash byte => (hash ^^^ byte.toUInt64) * prime) fingerprint

/-- `field` (lines 538-541). -/
def field (fingerprint : Fingerprint) (value : String) : Fingerprint :=
  bytes (bytes fingerprint (leBytes 8 (strLen value))) (strBytes value)

end Fingerprint

/-- Lines 102-105. -/
structure DesiredRuntimeFingerprint where
  enabled : Bool
  fingerprint : Fingerprint
  deriving DecidableEq

/-- Line 107. -/
abbrev DesiredRuntimeSnapshot := ExtTreeMap ℕ DesiredRuntimeFingerprint

/-- `channel_id` (lines 500-514). -/
def runtimeChannelId (raw : ℕ) : PortResult ℕ :=
  if 2 ^ 32 ≤ raw then .error ⟨.invalidData, "stored channel identity is outside the u32 range"⟩
  else if 10000 ≤ raw then
    .error ⟨.invalidData, "stored channel identity is outside the runtime range"⟩
  else .ok raw

/-- `REQUIRED_POINT_TABLES` (lines 24-29). -/
def PointTable.name : PointTable → String
  | .telemetryPoints => "telemetry_points"
  | .signalPoints => "signal_points"
  | .controlPoints => "control_points"
  | .adjustmentPoints => "adjustment_points"

/-- A row in `load_desired_runtime_snapshot` (lines 349-393). -/
def rowFingerprint (row : ChannelRow) : DesiredRuntimeFingerprint where
  enabled := row.enabled
  fingerprint :=
    [row.name, row.protocol.getD "", row.config.getD "", toString row.revision].foldl
      Fingerprint.field (Fingerprint.field .offset "channel")

/-- `append_table_fingerprints` (lines 395-487). -/
def appendTableFingerprints (db : Database) (desired : DesiredRuntimeSnapshot)
    (table : PointTable) : PortResult DesiredRuntimeSnapshot := do
  (db.points table).forM fun point => do
    let channelId ← runtimeChannelId point.1
    if desired.contains channelId then .ok ()
    else .error ⟨.invalidData, s!"{table.name} references absent channel {channelId}"⟩
  .ok <| desired.map fun channelId current =>
    match db.pointsOf channelId table with
    | [] => current
    | rows =>
      { current with
        fingerprint := (rows.insertionSort (· ≤ ·)).foldl Fingerprint.bytes
          (Fingerprint.field current.fingerprint table.name) }

/-- `load_desired_runtime_snapshot` (lines 349-393) on the tables it reads. -/
def desiredRuntimeSnapshot (db : Database) : PortResult DesiredRuntimeSnapshot := do
  db.channels.keys.forM fun channelId => do
    let _ ← runtimeChannelId channelId
    .ok ()
  [PointTable.telemetryPoints, .signalPoints, .controlPoints, .adjustmentPoints].foldlM
    (appendTableFingerprints db) (db.channels.map fun _ row => rowFingerprint row)

/-- `changed_channel_ids` (lines 335-347). -/
def changedChannelIds (before after : DesiredRuntimeSnapshot) : List ℕ :=
  (idSet (before.keys ++ after.keys)).filter fun channelId => before[channelId]? ≠ after[channelId]?

/-- `reconciliation_targets` (lines 311-333). -/
def reconciliationTargets (applied : Option DesiredRuntimeSnapshot)
    (desired : DesiredRuntimeSnapshot) (runtimeIds : List ℕ) : List ℕ :=
  let changed :=
    match applied with
    | some applied => changedChannelIds applied desired
    | none => desired.keys
  let drifted := desired.keys.filter fun channelId =>
    desired[channelId]?.any fun row => row.enabled != runtimeIds.contains channelId
  let orphans := runtimeIds.filter fun channelId => !desired.contains channelId
  idSet (changed ++ drifted ++ orphans)

/-! ## The cycle -/

/-- What the reconciler asks of its ports, and its own `applied` snapshot. -/
inductive CycleOp where
  | loadDesired
  | projectCurrent
  | runtimeChannelIds
  | reconcile (scope : ChannelReconciliationScope)
  | fenceUntrusted (channelIds : List ℕ)
  | getApplied
  | setApplied (applied : Option DesiredRuntimeSnapshot)

/-- What an operation returns. -/
@[reducible] def CycleOp.Response : CycleOp → Type
  | .loadDesired => PortResult DesiredRuntimeSnapshot
  | .projectCurrent => PortResult Bool
  | .runtimeChannelIds => List ℕ
  | .reconcile _ => PortResult ChannelReconciliationReceipt
  | .fenceUntrusted _ => PortResult Unit
  | .getApplied => Option DesiredRuntimeSnapshot
  | .setApplied _ => Unit

/-- The operations of the cycle. -/
@[reducible] def cycleInterface : Interface := ⟨CycleOp, CycleOp.Response⟩

/-- A program of the cycle. -/
abbrev CycleProgram := Program cycleInterface

/-- One operation of the cycle. -/
def cycleOp (op : CycleOp) : CycleProgram op.Response := Program.perform (I := cycleInterface) op

@[simp] theorem cycleOp_bind {β : Type} (op : CycleOp) (next : op.Response → CycleProgram β) :
    (@bind CycleProgram _ (no_index op.Response) β (cycleOp op) next) = .call op next := rfl

/-- Lines 68-73. -/
structure AutomaticIoReconciliationReceipt where
  topologyCurrent : Bool
  authorityStable : Bool
  attemptedChannels : ℕ
  converged : Bool
  deriving DecidableEq

/-- `clear_applied` (lines 252-254). -/
def clearApplied : CycleProgram Unit := cycleOp (.setApplied none)

/-- `fail_closed` (lines 256-264). -/
def failClosed (desired : Option DesiredRuntimeSnapshot) : CycleProgram (PortResult ℕ) := do
  let runtimeIds ← cycleOp .runtimeChannelIds
  let channelIds := idSet (runtimeIds ++ (desired.map ExtTreeMap.keys).getD [])
  match ← cycleOp (.fenceUntrusted channelIds) with
  | .error error => return .error error
  | .ok () => return .ok channelIds.length

/-- An exit with an error: everything is fenced and the snapshot forgotten. -/
def failWith {α : Type} (desired : Option DesiredRuntimeSnapshot) (error : PortError) :
    CycleProgram (PortResult α) := do
  clearApplied
  match ← failClosed desired with
  | .error fenceError => return .error fenceError
  | .ok _ => return .error error

/-- The full pass: whether it converged. -/
def reconcileForced (desired : DesiredRuntimeSnapshot) : CycleProgram (PortResult Bool) := do
  match ← cycleOp (.reconcile .all) with
  | .error error => failWith (some desired) error
  | .ok receipt =>
    if !receipt.reconciliationRequired then return .ok true
    else
      match ← failClosed (some desired) with
      | .error error => return .error error
      | .ok _ => return .ok false

/-- The loop over the targets: whether it converged. -/
def reconcileTargets : List ℕ → Bool → CycleProgram (PortResult Bool)
  | [], converged => return .ok converged
  | channelId :: rest, converged => do
    match ← cycleOp (.reconcile (.one channelId)) with
    | .error error =>
      clearApplied
      match ← cycleOp (.fenceUntrusted [channelId]) with
      | .error fenceError => return .error fenceError
      | .ok () => return .error error
    | .ok receipt =>
      if receipt.reconciliationRequired then
        match ← cycleOp (.fenceUntrusted [channelId]) with
        | .error error => return .error error
        | .ok () => reconcileTargets rest false
      else reconcileTargets rest converged

/-- The end of a cycle. -/
def confirmCycle (desired : DesiredRuntimeSnapshot) (attemptedChannels : ℕ) (converged : Bool) :
    CycleProgram (PortResult AutomaticIoReconciliationReceipt) := do
  match ← cycleOp .loadDesired with
  | .error error => failWith (some desired) error
  | .ok latest =>
    if latest ≠ desired then
      match ← cycleOp (.fenceUntrusted (changedChannelIds desired latest)) with
      | .error error => return .error error
      | .ok () =>
        clearApplied
        return .ok ⟨true, false, attemptedChannels, false⟩
    else
      cycleOp (.setApplied (if converged then some latest else none))
      return .ok ⟨true, true, attemptedChannels, converged⟩

/-- A cycle after its repair. -/
def conclude (desired : DesiredRuntimeSnapshot) (attemptedChannels : ℕ) :
    PortResult Bool → CycleProgram (PortResult AutomaticIoReconciliationReceipt)
  | .error error => return .error error
  | .ok converged => confirmCycle desired attemptedChannels converged

/-- The repair in `reconcile_once` (lines 144-250). -/
def repair (forceAll : Bool) (desired : DesiredRuntimeSnapshot) (targets : List ℕ) :
    CycleProgram (PortResult Bool) :=
  if forceAll then reconcileForced desired else reconcileTargets targets true

/-- `reconcile_once` (lines 144-250). -/
def reconcileOnce : CycleProgram (PortResult AutomaticIoReconciliationReceipt) := do
  match ← cycleOp .loadDesired with
  | .error error => failWith none error
  | .ok desired =>
    match ← cycleOp .projectCurrent with
    | .error error => failWith (some desired) error
    | .ok false =>
      match ← failClosed (some desired) with
      | .error error => return .error error
      | .ok attemptedChannels =>
        clearApplied
        return .ok ⟨false, true, attemptedChannels, false⟩
    | .ok true =>
      let runtimeIds ← cycleOp .runtimeChannelIds
      let applied ← cycleOp .getApplied
      let targets := reconciliationTargets applied desired (idSet runtimeIds)
      conclude desired targets.length (← repair applied.isNone desired targets)

/-! ## The ports -/

/-- What one operation of a call meets: the tables as other writers left them, and what the code
    does not decide. -/
structure Moment where
  db : Database
  choice : ChannelOp → Choice

/-- The world of a call and how many of its operations are over. -/
structure CallState where
  world : World
  now : ℕ

/-- The operations of a call, each at its moment. -/
def callHandle (moments : ℕ → Moment) (s : CallState) (op : ChannelOp) : op.Response × CallState :=
  let moment := moments s.now
  let (response, world) := channelApply 0 op (moment.choice op) { s.world with db := moment.db }
  (response, ⟨world, s.now + 1⟩)

/-- A call of the adapter from its start to its end. -/
def call {α : Type} (moments : ℕ → Moment) (program : ChannelProgram α) (w : World) : α × World :=
  let (result, s) := program.eval (callHandle moments) ⟨w, 0⟩
  (result, channelRelease 0 s.world)

/-- What a cycle meets: the tables of its loads, or how a load fails, the answer of its topology
    projection, and the moments of its calls. The adapter may own a topology projector too. -/
structure CycleEnvironment where
  library : ChannelLibrary
  topology : Bool
  desired : ℕ → Except PortError Database
  projection : PortResult Bool
  reconcile : ChannelReconciliationScope → ℕ → Moment
  fence : List ℕ → ℕ → Moment

/-- The reconciler with the world of its adapter; `loads` counts the loads of a cycle, `receipts`
    are those of its reconciliations. -/
structure CycleState where
  world : World
  applied : Option DesiredRuntimeSnapshot
  loads : ℕ
  receipts : List ChannelReconciliationReceipt

namespace CycleEnvironment

variable (env : CycleEnvironment)

/-- The ports of the reconciler. -/
def handle (s : CycleState) (op : CycleOp) : op.Response × CycleState :=
  match op with
  | .loadDesired => (env.desired s.loads >>= desiredRuntimeSnapshot, { s with loads := s.loads + 1 })
  | .projectCurrent => (env.projection, s)
  | .runtimeChannelIds => (s.world.runtimes.keys, s)
  | .reconcile scope =>
    let (result, world) :=
      call (env.reconcile scope) (Io.reconcile env.library env.topology scope) s.world
    (result, { s with world, receipts := s.receipts ++ result.toOption.toList })
  | .fenceUntrusted channelIds =>
    let (result, world) := call (env.fence channelIds) (fenceUntrustedChannels channelIds) s.world
    (result, { s with world })
  | .getApplied => (s.applied, s)
  | .setApplied applied => ((), { s with applied })

/-- A cycle from this state on. -/
def cycle (s : CycleState) : PortResult AutomaticIoReconciliationReceipt × CycleState :=
  reconcileOnce.eval env.handle { s with loads := 0, receipts := [] }

end CycleEnvironment

end AetherEdge.Io
