import AetherEdge.Common.Program
import AetherEdge.Io.ChannelStore

/-!
# The operations of the channel commissioning adapter

`SqliteChannelMutator` (`services/io/src/channel_mutator.rs`) works on the database, on the channel
manager's runtimes (`services/io/src/core/channels/channel_manager.rs`) and behind locks. Each of
its `await` points is an operation here, so that the functions of the adapter are programs over
`channelInterface`, and `channelMachine` says what the operations do to a shared `World`. What the
code does not decide (a failing statement, an unreachable device, a busy slot) is a `Choice`.
-/

namespace AetherEdge.Io

open Std (ExtTreeMap)
open Program (perform)

/-! ## Receipts -/

/-- `channel.rs:571-582`. -/
inductive ChannelRuntimeProjection where
  | stopped
  | activationPending
  | active
  | degraded
  | removed
  deriving DecidableEq, Repr

/-- `reconciliation_required` (`channel.rs:599-601`). -/
def ChannelRuntimeProjection.reconciliationRequired : ChannelRuntimeProjection → Bool
  | .activationPending | .degraded => true
  | _ => false

/-- `channel.rs:538-549`. -/
inductive ChannelMutationKind where
  | create
  | update
  | delete
  | enable
  | disable
  deriving DecidableEq, Repr

/-- Whether a reconciliation is required follows from the projection. -/
structure ChannelMutationReceipt where
  channelId : ℕ
  kind : ChannelMutationKind
  resultingRevision : ℕ
  desiredEnabled : Bool
  runtimeProjection : ChannelRuntimeProjection
  deriving DecidableEq

/-- `channel.rs:678-683`. -/
inductive ChannelReconciliationScope where
  | all
  | one (channelId : ℕ)
  deriving DecidableEq

/-- `channel.rs:708-721`. -/
inductive ChannelDesiredStateObservation where
  | present (revision : ℕ) (enabled : Bool)
  | absent (lastRevision : Option ℕ)
  deriving DecidableEq

/-- `channel.rs:763-767`. -/
structure ChannelReconciliationItem where
  channelId : ℕ
  desired : ChannelDesiredStateObservation
  runtimeProjection : ChannelRuntimeProjection
  deriving DecidableEq

/-- `channel.rs:823-826`. -/
structure ChannelReconciliationReceipt where
  scope : ChannelReconciliationScope
  items : List ChannelReconciliationItem
  deriving DecidableEq

/-- `reconciliation_required` (`channel.rs:862-864`). -/
def ChannelReconciliationReceipt.reconciliationRequired
    (receipt : ChannelReconciliationReceipt) : Bool :=
  receipt.items.any fun item => item.runtimeProjection.reconciliationRequired

/-! ## Snapshots -/

/-- `RuntimeChannelConfig` as it is loaded from the database: the channel, its revision and the rows
    of its points. -/
structure RuntimeSnapshot where
  base : ChannelConfig
  persistedRevision : Option ℕ
  points : PointTable → List Bytes

/-- `RuntimeAuthoritySnapshot` (`sqlite_loader.rs:50-53`). -/
structure RuntimeAuthority where
  channels : ExtTreeMap ℕ (ℕ × Bool)
  tombstones : ExtTreeMap ℕ ℕ

/-- The rows of one channel in the point tables. -/
def Database.pointsOf (db : Database) (channelId : ℕ) (table : PointTable) : List Bytes :=
  ((db.points table).filter fun point => point.1 == channelId).map Prod.snd

/-- `load_runtime_authority` (`sqlite_loader.rs:179-247`). -/
def Database.authority (db : Database) : RuntimeAuthority :=
  ⟨db.channels.map fun _ row => (row.revision, row.enabled), db.tombstones⟩

/-- `parse_channel_row` (`sqlite_loader.rs:329-356`). -/
def parseChannelRow (library : ChannelLibrary) (channelId : ℕ) (row : ChannelRow) :
    Option (ChannelConfig × ℕ) :=
  match row.protocol, library.decode row.config with
  | some protocol, .ok payload =>
    if row.revision = 0 then none
    else
      some
        ({ id := channelId, name := row.name, description := payload.description, protocol
           enabled := row.enabled, parameters := payload.parameters
           logging := payload.logging }, row.revision)
  | _, _ => none

/-- A row in `load_runtime_channel` (`sqlite_loader.rs:135-173`). -/
def runtimeSnapshot (library : ChannelLibrary) (channelId : ℕ) (row : ChannelRow)
    (points : PointTable → List Bytes) : Option RuntimeSnapshot :=
  (parseChannelRow library channelId row).map fun parsed => ⟨parsed.1, some parsed.2, points⟩

/-! ## Operations -/

/-- The operations of the adapter: its locks, the projection of the shared-memory topology, its
    statements and transactions, and the methods of the channel manager. -/
inductive ChannelOp where
  | readGate
  | writeGate
  | lockChannel (channelId : ℕ)
  | unlockChannel (channelId : ℕ)
  | lockAllocation
  | project
  | selectChannel (channelId : ℕ)
  | selectTombstone (channelId : ℕ)
  | selectOccupied
  | countRoutes (channelId : ℕ)
  | insertChannel (channelId : ℕ) (name protocol : String) (enabled : Bool) (config : String)
  | updateChannel (channelId expected next : ℕ) (name protocol config : String)
  | updateEnabled (channelId expected next : ℕ) (enabled : Bool)
  | deleteChannel (channelId expected tombstone : ℕ)
  | selectRuntimeChannel (channelId : ℕ)
  | selectRuntimeChannels
  | selectRuntimeAuthority
  | getChannel (channelId : ℕ)
  | channelIds
  | createChannel (snapshot : RuntimeSnapshot)
  | isConnected (channelId : ℕ)
  | connect (channelId : ℕ)
  | removeChannel (channelId : ℕ)

/-- What the operations answer. -/
@[reducible] def ChannelOp.Response : ChannelOp → Type
  | .readGate | .writeGate | .lockChannel _ | .unlockChannel _ | .lockAllocation => Unit
  | .project => PortResult Bool
  | .selectChannel _ => Except SqlError (Option ChannelRow)
  | .selectTombstone _ => Except SqlError (Option ℕ)
  | .selectOccupied => Except SqlError (List ℕ)
  | .countRoutes _ => Except SqlError ℕ
  | .insertChannel .. | .updateChannel .. | .updateEnabled .. => Except SqlError ℕ
  | .deleteChannel .. => PortResult Unit
  | .selectRuntimeChannel _ => Option (Option ChannelRow × (PointTable → List Bytes))
  | .selectRuntimeChannels => Option (List (ℕ × ChannelRow × (PointTable → List Bytes)))
  | .selectRuntimeAuthority => Option RuntimeAuthority
  | .channelIds => List ℕ
  | .getChannel _ | .createChannel _ | .isConnected _ | .connect _ | .removeChannel _ => Bool

/-- The operations of a call. -/
@[reducible] def channelInterface : Interface := ⟨ChannelOp, ChannelOp.Response⟩

/-- A function of the adapter. -/
abbrev ChannelProgram := Program channelInterface

/-- One operation of a call. -/
def channelOp (op : ChannelOp) : ChannelProgram op.Response := perform (I := channelInterface) op

@[simp] theorem channelOp_bind {β : Type} (op : ChannelOp) (next : op.Response → ChannelProgram β) :
    (@bind ChannelProgram _ (no_index op.Response) β (channelOp op) next) = .call op next := rfl

/-! ## The world -/

/-- The read-write lock of the projections: its readers, or its writer. -/
inductive Gate where
  | read (holders : List ℕ)
  | write (holder : ℕ)
  deriving DecidableEq

namespace Gate

/-- Readers may enter. -/
def readable : Gate → Bool
  | .read _ => true
  | .write _ => false

/-- A reader enters. -/
def join (t : ℕ) : Gate → Gate
  | .read holders => .read (t :: holders)
  | .write holder => .write holder

/-- A holder leaves. -/
def leave (t : ℕ) : Gate → Gate
  | .read holders => .read (holders.filter (· ≠ t))
  | .write holder => if holder = t then .read [] else .write holder

end Gate

/-- What a task shares with the others: the tables, the runtimes of the channel manager, who holds
    the locks, and what each task last read of the tables since its last activation. -/
structure World where
  db : Database
  runtimes : ExtTreeMap ℕ RuntimeSnapshot
  gate : Gate
  channelLocks : ℕ → Option ℕ
  allocationLock : Option ℕ
  seen : ℕ → Option Database

/-- What the code does not decide. -/
structure Choice where
  sql : Option SqlError := none
  commit : Option PortError := none
  topology : PortResult Bool := .ok true
  created : Bool := true
  connected : Bool := false
  connects : Bool := true
  busy : Bool := false

namespace World

/-- The task reads the tables. -/
def see (t : ℕ) (w : World) : World := { w with seen := Function.update w.seen t (some w.db) }

/-- A statement that reads. -/
def select {α : Type} (t : ℕ) (choice : Choice) (w : World) (read : Database → α) :
    Except SqlError α × World :=
  match choice.sql with
  | some error => (.error error, w)
  | none => (.ok (read w.db), w.see t)

/-- A transaction that reads. -/
def load {α : Type} (t : ℕ) (choice : Choice) (w : World) (read : Database → α) :
    Option α × World :=
  match choice.sql with
  | some _ => (none, w)
  | none => (some (read w.db), w.see t)

/-- A statement that writes. -/
def execute (choice : Choice) (w : World)
    (write : Database → Except SqlError (ℕ × Database)) : Except SqlError ℕ × World :=
  match choice.sql with
  | some error => (.error error, w)
  | none =>
    match write w.db with
    | .error error => (.error error, w)
    | .ok (answer, db) => (.ok answer, { w with db })

end World

/-- The operations on the world. `create_channel` (`channel_creation.rs:83-154`) fails when the slot
    is busy or taken or the protocol cannot be built; `remove_channel` fails when the slot is busy
    or empty. -/
def channelApply (t : ℕ) (op : ChannelOp) (choice : Choice) (w : World) : op.Response × World :=
  match op with
  | .readGate => ((), { w with gate := w.gate.join t })
  | .writeGate => ((), { w with gate := .write t })
  | .lockChannel c => ((), { w with channelLocks := Function.update w.channelLocks c (some t) })
  | .unlockChannel c => ((), { w with channelLocks := Function.update w.channelLocks c none })
  | .lockAllocation => ((), { w with allocationLock := some t })
  | .project => (choice.topology, w)
  | .selectChannel c => w.select t choice fun db => db.channels[c]?
  | .selectTombstone c => w.select t choice fun db => db.tombstones[c]?
  | .selectOccupied => w.select t choice Database.occupied
  | .countRoutes c => w.select t choice fun db => db.routes c
  | .insertChannel c name protocol enabled config =>
    w.execute choice fun db => db.insertChannel c name protocol enabled config
  | .updateChannel c expected next name protocol config =>
    w.execute choice fun db => db.updateChannel c expected next name protocol config
  | .updateEnabled c expected next enabled =>
    w.execute choice fun db => db.updateEnabled c expected next enabled
  | .deleteChannel c expected tombstone =>
    match choice.commit, w.db.deleteDesiredState c expected tombstone with
    | some error, _ => (.error error, w)
    | none, .error error => (.error error, w)
    | none, .ok db => (.ok (), { w with db })
  | .selectRuntimeChannel c => w.load t choice fun db => (db.channels[c]?, db.pointsOf c)
  | .selectRuntimeChannels =>
    w.load t choice fun db => db.channels.toList.map fun entry =>
      (entry.1, entry.2, db.pointsOf entry.1)
  | .selectRuntimeAuthority => w.load t choice Database.authority
  | .getChannel c => (w.runtimes.contains c, w)
  | .channelIds => (w.runtimes.keys, w)
  | .createChannel snapshot =>
    -- what was read before the activation does not confirm it
    let w := { w with seen := Function.update w.seen t none }
    if choice.busy || !choice.created || w.runtimes.contains snapshot.base.id then (false, w)
    else (true, { w with runtimes := w.runtimes.insert snapshot.base.id snapshot })
  | .isConnected _ => (choice.connected, w)
  | .connect _ => (choice.connects, w)
  | .removeChannel c =>
    if choice.busy || !w.runtimes.contains c then (false, w)
    else (true, { w with runtimes := w.runtimes.erase c })

/-- What an operation waits for: the write side of the gate for every other holder, the read side
    for a writer, a mutex for its holder. -/
def channelEnabled (op : ChannelOp) (w : World) : Bool :=
  match op with
  | .readGate => w.gate.readable
  | .writeGate => w.gate == .read []
  | .lockChannel c => (w.channelLocks c).isNone
  | .lockAllocation => w.allocationLock.isNone
  | _ => true

/-- The end of a task drops its guards. -/
def channelRelease (t : ℕ) (w : World) : World :=
  { w with
    gate := w.gate.leave t
    channelLocks := fun c => if w.channelLocks c = some t then none else w.channelLocks c
    allocationLock := if w.allocationLock = some t then none else w.allocationLock
    seen := Function.update w.seen t none }

/-- The tasks of the adapter on their world. -/
def channelMachine : Machine channelInterface ℕ Choice World where
  enabled _ op w := channelEnabled op w = true
  decEnabled _ _ _ := inferInstance
  apply := channelApply
  release := channelRelease

/-! ## The lifecycle of a runtime -/

/-- The entry of `activate` (`channel_mutator.rs:71-88`): the one that is there, or a new one. -/
def installed (snapshot : RuntimeSnapshot) : ChannelProgram Bool := do
  if ← channelOp (.getChannel snapshot.base.id) then return true
  else channelOp (.createChannel snapshot)

/-- `activate` (`channel_mutator.rs:71-88`). -/
def activate (snapshot : RuntimeSnapshot) : ChannelProgram (PortResult Unit) := do
  if ← installed snapshot then
    if ← channelOp (.isConnected snapshot.base.id) then return .ok ()
    else if ← channelOp (.connect snapshot.base.id) then return .ok ()
    else
      let _ ← channelOp (.removeChannel snapshot.base.id)
      return .error (unavailable "channel runtime connection failed")
  else return .error (unavailable "channel runtime activation failed")

/-- `fence` (`channel_mutator.rs:90-97`). -/
def fence (channelId : ℕ) : ChannelProgram (PortResult Unit) := do
  if ← channelOp (.getChannel channelId) then
    if ← channelOp (.removeChannel channelId) then return .ok ()
    else return .error (unavailable "channel runtime fencing failed")
  else return .ok ()

end AetherEdge.Io
