import AetherEdge.Io.ChannelLifecycle

/-!
# The channel commissioning adapter

The functions of `SqliteChannelMutator` (`services/io/src/channel_mutator.rs`) as programs over the
operations of `ChannelLifecycle`: the mutations of the desired state, the reconciliation of the
runtimes with it, and the fencing of runtimes whose authority is in doubt.
-/

namespace AetherEdge.Io

open Std (ExtTreeMap)

/-! ## Reading the stored state -/

/-- `load_channel` (lines 1067-1093). -/
def loadChannel (channelId : ℕ) : ChannelProgram (PortResult StoredChannel) := do
  match ← channelOp (.selectChannel channelId) with
  | .error error => return .error (mapDatabaseError error "load channel desired state")
  | .ok row => return storedChannel channelId row

/-- `load_tombstone_revision` (lines 1095-1110). -/
def loadTombstoneRevision (channelId : ℕ) : ChannelProgram (PortResult ℕ) := do
  match ← channelOp (.selectTombstone channelId) with
  | .error error => return .error (mapDatabaseError error "load channel revision tombstone")
  | .ok none => return .error ⟨.notFound, "channel tombstone does not exist"⟩
  | .ok (some revision) => return storedRevision revision

/-- `optional_tombstone_revision` (lines 1112-1121). -/
def optionalTombstoneRevision (channelId : ℕ) : ChannelProgram (PortResult (Option ℕ)) := do
  match ← loadTombstoneRevision channelId with
  | .ok revision => return .ok (some revision)
  | .error error => return if error.kind = .notFound then .ok none else .error error

/-- `same_channel_entity` (lines 1406-1412). -/
def sameChannelEntity (initial : StoredChannel) : ChannelProgram Bool := do
  match ← loadTombstoneRevision initial.channelId with
  | .ok tombstone => return decide (tombstone ≤ initial.revision)
  | .error error => return decide (error.kind = .notFound)

/-- The text of `load_runtime_snapshot` and `load_runtime_snapshots`. -/
def snapshotUnavailable : PortError :=
  unavailable "authoritative channel runtime snapshot is unavailable"

section Library

variable (library : ChannelLibrary)

/-- `load_runtime_snapshot` (lines 163-172). -/
def loadRuntimeSnapshot (channelId revision : ℕ) :
    ChannelProgram (PortResult RuntimeSnapshot) := do
  match ← channelOp (.selectRuntimeChannel channelId) with
  | some (some row, points) =>
    match runtimeSnapshot library channelId row points with
    | some snapshot =>
      if row.revision = revision then return .ok snapshot
      return .error snapshotUnavailable
    | none => return .error snapshotUnavailable
  | _ => return .error snapshotUnavailable

/-- `load_runtime_snapshots` (lines 174-179). -/
def loadRuntimeSnapshots : ChannelProgram (PortResult (List RuntimeSnapshot)) := do
  match ← channelOp .selectRuntimeChannels with
  | none => return .error snapshotUnavailable
  | some rows =>
    match rows.mapM fun entry => runtimeSnapshot library entry.1 entry.2.1 entry.2.2 with
    | none => return .error snapshotUnavailable
    | some snapshots => return .ok snapshots

/-- `activate_revision` (lines 181-188). -/
def activateRevision (channelId revision : ℕ) : ChannelProgram (PortResult Unit) := do
  match ← loadRuntimeSnapshot library channelId revision with
  | .error error => return .error error
  | .ok snapshot => activate snapshot

/-! ## What an operation reports -/

/-- `Ok(()) => active, Err(_) => Degraded` after an activation, and `Stopped` or `Removed` after a
    fence. -/
def projectionOf (success : ChannelRuntimeProjection) : PortResult Unit → ChannelRuntimeProjection
  | .ok () => success
  | .error _ => .degraded

/-- `!is_present(id) || fence(id).await.is_ok()`. -/
def fencePresent (channelId : ℕ) : ChannelProgram (PortResult Unit) := do
  if ← channelOp (.getChannel channelId) then fence channelId
  else return .ok ()

/-- The activation in `create_locked` (lines 243-293). -/
def projectRevision (channelId revision : ℕ) : ChannelProgram ChannelRuntimeProjection := do
  return projectionOf .active (← activateRevision library channelId revision)

/-- The fence in `set_enabled` (lines 349-487). -/
def projectStopped (channelId : ℕ) : ChannelProgram ChannelRuntimeProjection := do
  return projectionOf .stopped (← fence channelId)

/-- `reconcile_after_update` (lines 548-567), which the two branches of `set_enabled` that act on
    the runtime repeat. -/
def reconcileAfterUpdate (channelId : ℕ) (enabled : Bool) (revision : ℕ) :
    ChannelProgram ChannelRuntimeProjection :=
  if !enabled then projectStopped channelId
  else do
    match ← fencePresent channelId with
    | .error _ => return .degraded
    | .ok () => projectRevision library channelId revision

/-- `observe_reconcile` (lines 569-609). -/
def observeReconcile (initial : StoredChannel) (projection : ChannelRuntimeProjection) :
    ChannelProgram (ℕ × Bool × ChannelRuntimeProjection) := do
  match ← loadChannel initial.channelId with
  | .ok latest =>
    if initial.sameDesiredState latest then return (latest.revision, latest.enabled, projection)
    let _ ← fence initial.channelId
    return (latest.revision, latest.enabled, .degraded)
  | .error error =>
    if error.kind = .notFound then
      let _ ← fence initial.channelId
      match ← loadTombstoneRevision initial.channelId with
      | .ok revision => return (revision, false, .degraded)
      | .error _ => return (initial.revision, false, .degraded)
    let _ ← fence initial.channelId
    return (initial.revision, initial.enabled, .degraded)

/-- The receipt of a mutation after the runtime was projected. -/
def observed (kind : ChannelMutationKind) (initial : StoredChannel)
    (projection : ChannelRuntimeProjection) : ChannelProgram (PortResult ChannelMutationReceipt) := do
  let (revision, enabled, projection) ← observeReconcile initial projection
  return .ok ⟨initial.channelId, kind, revision, enabled, projection⟩

/-- `restore_authoritative_runtime` (lines 1352-1404). -/
def restoreAuthoritativeRuntime (initial : StoredChannel) : ChannelProgram Unit := do
  let giveUp : ChannelProgram Unit := do
    let _ ← fence initial.channelId
    return ()
  if !(← sameChannelEntity initial) then giveUp
  else
    match ← loadChannel initial.channelId with
    | .error _ => giveUp
    | .ok latest =>
      if !latest.enabled then giveUp
      else if !(← sameChannelEntity initial) then giveUp
      else
        match latest.toConfig library with
        | .error _ => giveUp
        | .ok config =>
          match validateRuntimeConfig library config with
          | .error _ => giveUp
          | .ok () =>
            match ← fencePresent initial.channelId with
            | .error _ => return ()
            | .ok () =>
              match ← loadRuntimeSnapshot library initial.channelId latest.revision with
              | .error _ => giveUp
              | .ok snapshot =>
                match ← activate snapshot with
                | .error _ => giveUp
                | .ok () =>
                  if !(← sameChannelEntity initial) then giveUp
                  else
                    match ← loadChannel initial.channelId with
                    | .error _ => giveUp
                    | .ok current =>
                      if latest.sameDesiredState current then return ()
                      giveUp

/-! ## Mutations -/

/-- The projection in `create_locked` (lines 243-293). -/
def projectCreated (channelId : ℕ) (enabled : Bool) (revision : ℕ) :
    ChannelProgram ChannelRuntimeProjection :=
  if enabled then projectRevision library channelId revision else return .stopped

/-- `create_locked` (lines 243-293). -/
def createLocked (channelId : ℕ) (definition : ChannelDefinition) :
    ChannelProgram (PortResult ChannelMutationReceipt) := do
  if ← channelOp (.getChannel channelId) then
    return .error (conflict "channel identity is already occupied at runtime")
  match definitionToConfig library channelId definition with
  | .error error => return .error error
  | .ok config =>
    match validateRuntimeConfig library config with
    | .error error => return .error error
    | .ok () =>
      match encodeConfig library config with
      | .error error => return .error error
      | .ok configJson =>
        match ← channelOp
          (.insertChannel channelId config.name config.protocol config.enabled configJson) with
        | .error error => return .error (mapDatabaseError error "create channel desired state")
        | .ok revision =>
          match storedRevision revision with
          | .error error => return .error error
          | .ok revision =>
            let committed := StoredChannel.fromCommittedConfig config configJson revision
            let projection ← projectCreated library channelId config.enabled revision
            observed .create committed projection

/-- `create` (lines 223-241). -/
def create (definition : ChannelDefinition) :
    ChannelProgram (PortResult ChannelMutationReceipt) := do
  match definition.requestedChannelId with
  | some channelId =>
    match validateChannelId channelId with
    | .error error => return .error error
    | .ok () =>
      channelOp (.lockChannel channelId)
      createLocked library channelId definition
  | none =>
    channelOp .lockAllocation
    match ← channelOp .selectOccupied with
    | .error error => return .error (mapDatabaseError error "allocate channel identity")
    | .ok occupied =>
      match nextAvailableChannelId occupied with
      | .error error => return .error error
      | .ok channelId =>
        channelOp (.lockChannel channelId)
        createLocked library channelId definition

/-- `update` (lines 295-347). -/
def update (channelId expected : ℕ) (patch : ChannelPatch) :
    ChannelProgram (PortResult ChannelMutationReceipt) := do
  match validateChannelId channelId with
  | .error error => return .error error
  | .ok () =>
    if patch.isEmpty then return .error (invalid "channel update patch is empty")
    channelOp (.lockChannel channelId)
    match ← loadChannel channelId with
    | .error error => return .error error
    | .ok stored =>
      let prepared : PortResult (ℕ × ChannelConfig × String) := do
        verifyExpectedRevision expected stored.revision
        let next ← nextRevision stored.revision
        let config ← applyPatch library (← stored.toConfig library) patch
        validateRuntimeConfig library config
        let configJson ← encodeConfig library config
        let _ ← revisionI64 next
        let _ ← revisionI64 stored.revision
        .ok (next, config, configJson)
      match prepared with
      | .error error => return .error error
      | .ok (next, config, configJson) =>
        match ← channelOp
          (.updateChannel channelId stored.revision next config.name config.protocol configJson)
        with
        | .error error => return .error (mapDatabaseError error "update channel desired state")
        | .ok affected =>
          if affected ≠ 1 then
            return .error (conflict "channel desired state changed concurrently")
          let committed := StoredChannel.fromCommittedConfig config configJson next
          let projection ← reconcileAfterUpdate library channelId config.enabled next
          observed .update committed projection

/-- The kind of a switch. -/
def enableKind (enabled : Bool) : ChannelMutationKind := if enabled then .enable else .disable

/-- `set_enabled` (lines 349-487) when the channel is already as asked. -/
def setEnabledSame (channelId : ℕ) (enabled : Bool) (stored : StoredChannel) :
    ChannelProgram (PortResult ChannelMutationReceipt) := do
  let projection ← reconcileAfterUpdate library channelId enabled stored.revision
  observed (enableKind enabled) stored projection

/-- The failure of a statement of `set_enabled` or `delete`: the runtime that was fenced before is
    restored. -/
def restored (stored : StoredChannel) (error : PortError) :
    ChannelProgram (PortResult ChannelMutationReceipt) := do
  restoreAuthoritativeRuntime library stored
  return .error error

/-- The failure of the `UPDATE` of `set_enabled` (lines 349-487). -/
def enableFailed (enabled : Bool) (stored : StoredChannel) (error : PortError) :
    ChannelProgram (PortResult ChannelMutationReceipt) :=
  if !enabled then restored library stored error else return .error error

/-- The projection of a changed `enabled` flag; a channel that is disabled was fenced before. -/
def projectEnabled (channelId : ℕ) (enabled : Bool) (revision : ℕ) :
    ChannelProgram ChannelRuntimeProjection :=
  if enabled then reconcileAfterUpdate library channelId true revision else return .stopped

/-- `set_enabled` (lines 349-487) from its `UPDATE` on. -/
def commitEnabled (channelId : ℕ) (enabled : Bool) (stored : StoredChannel) (next : ℕ) :
    ChannelProgram (PortResult ChannelMutationReceipt) := do
  match revisionI64 next, revisionI64 stored.revision with
  | .error error, _ => return .error error
  | _, .error error => return .error error
  | .ok _, .ok _ =>
    match ← channelOp (.updateEnabled channelId stored.revision next enabled) with
    | .error error =>
      enableFailed library enabled stored (mapDatabaseError error "set channel enabled state")
    | .ok affected =>
      if affected ≠ 1 then
        enableFailed library enabled stored (conflict "channel desired state changed concurrently")
      else
        let projection ← projectEnabled library channelId enabled next
        observed (enableKind enabled) { stored with enabled, revision := next } projection

/-- The fence of `set_enabled` (lines 349-487). -/
def fenceDisabled (channelId : ℕ) (enabled : Bool) : ChannelProgram (PortResult Unit) :=
  if !enabled then fence channelId else return .ok ()

/-- `set_enabled` (lines 349-487) when the stored state changes. -/
def setEnabledChange (channelId : ℕ) (enabled : Bool) (stored : StoredChannel) :
    ChannelProgram (PortResult ChannelMutationReceipt) := do
  match nextRevision stored.revision with
  | .error error => return .error error
  | .ok next =>
    match ← fenceDisabled channelId enabled with
    | .error _ => restored library stored (unavailable "channel runtime could not be fenced")
    | .ok () => commitEnabled library channelId enabled stored next

/-- `set_enabled` (lines 349-487). -/
def setEnabled (channelId expected : ℕ) (enabled : Bool) :
    ChannelProgram (PortResult ChannelMutationReceipt) := do
  match validateChannelId channelId with
  | .error error => return .error error
  | .ok () =>
    channelOp (.lockChannel channelId)
    match ← loadChannel channelId with
    | .error error => return .error error
    | .ok stored =>
      let checked : PortResult Unit := do
        verifyExpectedRevision expected stored.revision
        if enabled then validateRuntimeConfig library (← stored.toConfig library) else .ok ()
      match checked with
      | .error error => return .error error
      | .ok () =>
        if stored.enabled = enabled then setEnabledSame library channelId enabled stored
        else setEnabledChange library channelId enabled stored

/-- `delete` (lines 489-546) from its transaction on. -/
def deleteFenced (channelId : ℕ) (stored : StoredChannel) (tombstone : ℕ) :
    ChannelProgram (PortResult ChannelMutationReceipt) := do
  match ← channelOp (.deleteChannel channelId stored.revision tombstone) with
  | .error error => restored library stored error
  | .ok () => return .ok ⟨channelId, .delete, tombstone, false, .removed⟩

/-- `delete` (lines 489-546). -/
def delete (channelId expected : ℕ) : ChannelProgram (PortResult ChannelMutationReceipt) := do
  match validateChannelId channelId with
  | .error error => return .error error
  | .ok () =>
    channelOp (.lockChannel channelId)
    match ← loadChannel channelId with
    | .error error => return .error error
    | .ok stored =>
      let prepared : PortResult ℕ := do
        verifyExpectedRevision expected stored.revision
        nextRevision stored.revision
      match prepared with
      | .error error => return .error error
      | .ok tombstone =>
        match ← channelOp (.countRoutes channelId) with
        | .error error => return .error (mapDatabaseError error "check governed logical routes")
        | .ok routes =>
          if routes ≠ 0 then
            return .error (conflict "remove governed logical routes before deleting their channel")
          match ← fence channelId with
          | .error _ => restored library stored (unavailable "channel runtime could not be fenced")
          | .ok () => deleteFenced library channelId stored tombstone

/-- `channel.rs:390-421`. -/
inductive ChannelMutation where
  | create (definition : ChannelDefinition)
  | update (channelId expectedRevision : ℕ) (patch : ChannelPatch)
  | delete (channelId expectedRevision : ℕ)
  | setEnabled (channelId expectedRevision : ℕ) (enabled : Bool)

/-- `mutate` (lines 959-981). -/
def mutate (mutation : ChannelMutation) :
    ChannelProgram (PortResult ChannelMutationReceipt) := do
  channelOp .readGate
  match mutation with
  | .create definition => create library definition
  | .update channelId expected patch => update library channelId expected patch
  | .delete channelId expected => delete library channelId expected
  | .setEnabled channelId expected enabled => setEnabled library channelId expected enabled

/-! ## Reconciliation -/

/-- A `BTreeSet` of identities in order. -/
def idSet (ids : List ℕ) : List ℕ := (Std.ExtTreeSet.ofList ids).toList

/-- Fence each channel behind its lock and keep the first error. -/
def fenceEach : List ℕ → Option PortError → ChannelProgram (PortResult Unit)
  | [], none => return .ok ()
  | [], some error => return .error error
  | channelId :: rest, first => do
    channelOp (.lockChannel channelId)
    let fenced ← fence channelId
    channelOp (.unlockChannel channelId)
    match fenced with
    | .ok () => fenceEach rest first
    | .error error => fenceEach rest (first.or (some error))

/-- `fence_untrusted_channels` (lines 201-221). -/
def fenceUntrustedChannels (channelIds : List ℕ) : ChannelProgram (PortResult Unit) := do
  channelOp .writeGate
  fenceEach (idSet channelIds) none

/-- `fence_current_runtimes` (lines 778-794). -/
def fenceCurrentRuntimes : ChannelProgram (PortResult Unit) := do
  fenceEach (idSet (← channelOp .channelIds)) none

/-- `fail_closed_bulk` (lines 771-776). -/
def failClosedBulk {α : Type} (error : PortError) : ChannelProgram (PortResult α) := do
  match ← fenceCurrentRuntimes with
  | .ok () => return .error error
  | .error fenceError => return .error fenceError

/-- `activate_runtime_snapshot` (lines 841-860). -/
def activateRuntimeSnapshot (snapshot : RuntimeSnapshot) :
    ChannelProgram ChannelRuntimeProjection := do
  match validateRuntimeConfig library snapshot.base with
  | .error _ =>
    let _ ← fence snapshot.base.id
    return .degraded
  | .ok () =>
    match ← fencePresent snapshot.base.id with
    | .error _ => return .degraded
    | .ok () =>
      match ← activate snapshot with
      | .ok () => return .active
      | .error _ =>
        let _ ← fence snapshot.base.id
        return .degraded

/-- `project_runtime_snapshot_locked` (lines 825-839). -/
def projectRuntimeSnapshotLocked (snapshot : RuntimeSnapshot) :
    ChannelProgram ChannelRuntimeProjection := do
  if snapshot.base.enabled then activateRuntimeSnapshot library snapshot
  else projectStopped snapshot.base.id

/-- The identities of a bulk snapshot. -/
def snapshotsById : List RuntimeSnapshot → ExtTreeMap ℕ (ℕ × RuntimeSnapshot) →
    PortResult (ExtTreeMap ℕ (ℕ × RuntimeSnapshot))
  | [], byId => .ok byId
  | snapshot :: rest, byId => do
    validateChannelId snapshot.base.id
    match snapshot.persistedRevision with
    | none =>
      .error (unavailable "authoritative channel runtime snapshot revision is unavailable")
    | some revision =>
      if revision = 0 then
        .error (unavailable "authoritative channel runtime snapshot revision is invalid")
      else if byId.contains snapshot.base.id then
        .error
          (unavailable "authoritative channel runtime snapshot contains duplicate identities")
      else snapshotsById rest (byId.insert snapshot.base.id (revision, snapshot))

/-- What a bulk pass notes for a channel: the desired state it projected, and the projection. -/
abbrev Pending := ExtTreeMap ℕ (Option (ℕ × Bool) × ChannelRuntimeProjection)

/-- One channel of the bulk pass. -/
def projectOne (topologyCurrent : Bool) (channelId : ℕ) :
    Option (ℕ × RuntimeSnapshot) → ChannelProgram (Option (ℕ × Bool) × ChannelRuntimeProjection)
  | some (revision, snapshot) => do
    if topologyCurrent then
      let projection ← projectRuntimeSnapshotLocked library snapshot
      return (some (revision, snapshot.base.enabled), projection)
    let _ ← fence channelId
    return (some (revision, snapshot.base.enabled), .degraded)
  | none => do
    let fenced ← fence channelId
    if topologyCurrent then return (none, projectionOf .removed fenced)
    return (none, .degraded)

/-- The loop of the bulk pass. -/
def projectEach (topologyCurrent : Bool) (byId : ExtTreeMap ℕ (ℕ × RuntimeSnapshot)) :
    List ℕ → Pending → ChannelProgram Pending
  | [], pending => return pending
  | channelId :: rest, pending => do
    channelOp (.lockChannel channelId)
    let entry ← projectOne library topologyCurrent channelId byId[channelId]?
    channelOp (.unlockChannel channelId)
    projectEach topologyCurrent byId rest (pending.insert channelId entry)

/-- `pending.entry(id).or_insert((None, Degraded))` for every stored channel. -/
def addStored : List ℕ → Pending → PortResult Pending
  | [], pending => .ok pending
  | channelId :: rest, pending => do
    validateChannelId channelId
    addStored rest
      (if pending.contains channelId then pending
        else pending.insert channelId (none, .degraded))

/-- The desired state an item reports. -/
def RuntimeAuthority.observation (authority : RuntimeAuthority) (channelId : ℕ) :
    ChannelDesiredStateObservation :=
  match authority.channels[channelId]? with
  | some (revision, enabled) => .present revision enabled
  | none => .absent authority.tombstones[channelId]?

/-- The second loop of the bulk pass. -/
def confirmEach (authority : RuntimeAuthority) :
    List (ℕ × Option (ℕ × Bool) × ChannelRuntimeProjection) →
      ChannelProgram (List ChannelReconciliationItem)
  | [] => return []
  | (channelId, expected, projection) :: rest => do
    let desired := authority.observation channelId
    if authority.channels[channelId]? = expected then
      let items ← confirmEach authority rest
      return ⟨channelId, desired, projection⟩ :: items
    channelOp (.lockChannel channelId)
    let _ ← fence channelId
    channelOp (.unlockChannel channelId)
    let items ← confirmEach authority rest
    return ⟨channelId, desired, .degraded⟩ :: items

/-- `reconcile_all` (lines 642-769). -/
def reconcileAll (topologyCurrent : Bool) :
    ChannelProgram (PortResult (List ChannelReconciliationItem)) := do
  match ← loadRuntimeSnapshots library with
  | .error error => failClosedBulk error
  | .ok snapshots =>
    match snapshotsById snapshots ∅ with
    | .error error => failClosedBulk error
    | .ok byId =>
      let runtimeIds ← channelOp .channelIds
      match runtimeIds.forM validateChannelId with
      | .error error => failClosedBulk error
      | .ok () =>
        let pending ← projectEach library topologyCurrent byId (idSet (byId.keys ++ runtimeIds)) ∅
        match ← channelOp .selectRuntimeAuthority with
        | none =>
          failClosedBulk (unavailable "authoritative channel revision snapshot is unavailable")
        | some authority =>
          match addStored authority.channels.keys pending with
          | .error error => failClosedBulk error
          | .ok pending => return .ok (← confirmEach authority pending.toList)

/-- `activate_authoritative` (lines 909-933). -/
def activateAuthoritative (stored : StoredChannel) : ChannelProgram ChannelRuntimeProjection := do
  let checked : PortResult Unit := do validateRuntimeConfig library (← stored.toConfig library)
  match checked with
  | .error _ =>
    let _ ← fence stored.channelId
    return .degraded
  | .ok () =>
    match ← fencePresent stored.channelId with
    | .error _ => return .degraded
    | .ok () =>
      match ← activateRevision library stored.channelId stored.revision with
      | .ok () => return .active
      | .error _ =>
        let _ ← fence stored.channelId
        return .degraded

/-- What `activate_runtime_snapshot` and `activate_authoritative` have in common. -/
def activateChecked (checked : PortResult Unit) (channelId : ℕ)
    (activation : ChannelProgram (PortResult Unit)) : ChannelProgram ChannelRuntimeProjection := do
  match checked with
  | .error _ =>
    let _ ← fence channelId
    return .degraded
  | .ok () =>
    match ← fencePresent channelId with
    | .error _ => return .degraded
    | .ok () =>
      match ← activation with
      | .ok () => return .active
      | .error _ =>
        let _ ← fence channelId
        return .degraded

theorem activateRuntimeSnapshot_eq (snapshot : RuntimeSnapshot) :
    activateRuntimeSnapshot library snapshot =
      activateChecked (validateRuntimeConfig library snapshot.base) snapshot.base.id
        (activate snapshot) := rfl

theorem activateAuthoritative_eq (stored : StoredChannel) :
    activateAuthoritative library stored =
      activateChecked (stored.toConfig library >>= fun config => validateRuntimeConfig library config)
        stored.channelId (activateRevision library stored.channelId stored.revision) := rfl

/-- The projection of `reconcile_present` (lines 862-907). -/
def projectPresent (initial : StoredChannel) : ChannelProgram ChannelRuntimeProjection :=
  if !initial.enabled then projectStopped initial.channelId
  else activateAuthoritative library initial

/-- `reconcile_present` (lines 862-907). -/
def reconcilePresent (initial : StoredChannel) : ChannelProgram ChannelReconciliationItem := do
  let projection ← projectPresent library initial
  match ← loadChannel initial.channelId with
  | .ok latest =>
    if initial.sameDesiredState latest then
      return ⟨initial.channelId, .present initial.revision initial.enabled, projection⟩
    let _ ← fence initial.channelId
    return ⟨initial.channelId, .present latest.revision latest.enabled, .degraded⟩
  | .error error =>
    let _ ← fence initial.channelId
    if error.kind = .notFound then
      match ← optionalTombstoneRevision initial.channelId with
      | .ok tombstone => return ⟨initial.channelId, .absent tombstone, .degraded⟩
      | .error _ => return ⟨initial.channelId, .absent none, .degraded⟩
    return ⟨initial.channelId, .present initial.revision initial.enabled, .degraded⟩

/-- `reconcile_absent_locked` (lines 809-823). -/
def reconcileAbsentLocked (channelId : ℕ) :
    ChannelProgram (PortResult ChannelReconciliationItem) := do
  match ← optionalTombstoneRevision channelId with
  | .error error => return .error error
  | .ok lastRevision =>
    let projection := projectionOf .removed (← fence channelId)
    return .ok ⟨channelId, .absent lastRevision, projection⟩

/-- `reconcile_channel_locked` (lines 796-807). -/
def reconcileChannelLocked (channelId : ℕ) :
    ChannelProgram (PortResult ChannelReconciliationItem) := do
  match ← loadChannel channelId with
  | .ok stored => return .ok (← reconcilePresent library stored)
  | .error error =>
    if error.kind = .notFound then reconcileAbsentLocked channelId
    else return .error error

/-- `degraded_item_locked` (lines 935-954). -/
def degradedItemLocked (channelId : ℕ) :
    ChannelProgram (PortResult ChannelReconciliationItem) := do
  let degraded (desired : ChannelDesiredStateObservation) :
      ChannelProgram (PortResult ChannelReconciliationItem) := do
    let _ ← fence channelId
    return .ok ⟨channelId, desired, .degraded⟩
  match ← loadChannel channelId with
  | .ok stored => degraded (.present stored.revision stored.enabled)
  | .error error =>
    if error.kind = .notFound then
      match ← optionalTombstoneRevision channelId with
      | .error error => return .error error
      | .ok tombstone => degraded (.absent tombstone)
    else return .error error

/-- A channel in `reconcile` (lines 986-1010). -/
def reconcileItem (topologyCurrent : Bool) (channelId : ℕ) :
    ChannelProgram (PortResult ChannelReconciliationItem) :=
  if topologyCurrent then reconcileChannelLocked library channelId
  else degradedItemLocked channelId

/-- `reconcile` (lines 986-1010) for one channel. -/
def reconcileOne (topologyCurrent : Bool) (channelId : ℕ) :
    ChannelProgram (PortResult (List ChannelReconciliationItem)) := do
  match validateChannelId channelId with
  | .error error => return .error error
  | .ok () =>
    channelOp (.lockChannel channelId)
    match ← reconcileItem library topologyCurrent channelId with
    | .error error => return .error error
    | .ok item => return .ok [item]

/-- Whether the topology is current; `topology` is whether the adapter owns a topology projector. -/
def topologyCurrent (topology : Bool) : ChannelProgram (PortResult Bool) :=
  if topology then channelOp .project else return .ok true

/-- The scopes in `reconcile` (lines 986-1010). -/
def reconcileItems (current : Bool) :
    ChannelReconciliationScope → ChannelProgram (PortResult (List ChannelReconciliationItem))
  | .all => reconcileAll library current
  | .one channelId => reconcileOne library current channelId

/-- `reconcile` (lines 986-1010). -/
def reconcile (topology : Bool) (scope : ChannelReconciliationScope) :
    ChannelProgram (PortResult ChannelReconciliationReceipt) := do
  channelOp .writeGate
  match ← topologyCurrent topology with
  | .error error => return .error error
  | .ok current =>
    match ← reconcileItems library current scope with
    | .error error => return .error error
    | .ok items => return .ok ⟨scope, items⟩

end Library

end AetherEdge.Io
