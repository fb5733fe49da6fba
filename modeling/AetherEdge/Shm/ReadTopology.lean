import AetherEdge.Shm.Health
import AetherEdge.Shm.TopologyCommit

/-!
# Readers of a topology

Model of the read side of the shared memory: `ReconnectingSlotSource`
(`libs/aether-shm-bridge/src/managed.rs`), `ShmChannelHealthReader` (`health.rs`)
and `ShmReadTopologyGeneration` (`read_topology.rs`).

A call makes several accesses, and the files may change between any two of them: `view k` are the
files at the `k`-th access of a call, and `file k` the mapped file at that time. A validation holds
the shared leases of the witness and of both planes, so that it sees one moment.

* `follows_ensureCurrent`: a reader keeps its mapping, drops it, or maps the file at the path;
* `readThrough_eq_ok`: what the two fences of a read have seen;
* `readSamples_eq_ok`: at which access each field of a sample was loaded;
* `authorized_withValidatedAuthority`: a generation is pinned only to a publication that has been
  validated.
-/

namespace AetherEdge.Shm

open Dataplane Domain Volume

/-! ## The source of the slots -/

/-- `ShmClientConfig`, with durations in milliseconds. -/
structure ShmClientConfig where
  path : String
  expectedLayoutHash : UInt64
  identityCheckInterval : ℕ := 250
  writerStaleAfter : UInt64 := 30000
  reconnectInterval : ℕ := 250

/-- `FileIdentity`, on one device. -/
structure FileIdentity where
  inode : ℕ
  length : ℕ
  deriving DecidableEq, Repr

/-- `FileIdentity::read` (`managed.rs:79-103`) of the canonical path. -/
def FileIdentity.read (volume : Volume) : Option IoError → Except IoError FileIdentity
  | some error => .error error
  | none =>
    match volume.canonical with
    | none => .error ⟨.other, "No such file or directory (os error 2)"⟩
    | some inode => .ok ⟨inode, (volume.inodes inode).len⟩

/-- `SlotReader`: the inode that it maps. -/
structure SlotReader where
  inode : ℕ
  slotCount : ℕ
  deriving DecidableEq, Repr

/-- `managed.rs:106-110`. -/
structure OpenReader where
  reader : SlotReader
  identity : FileIdentity
  generation : UInt64
  deriving DecidableEq, Repr

/-- `ClientState`, with deadlines in milliseconds. -/
structure ClientState where
  opened : Option OpenReader := none
  nextIdentityCheck : Option ℕ := none
  nextOpenAttempt : Option ℕ := none
  lastOpenError : Option PortError := none

/-- `managed.rs:122-127`. -/
structure ReconnectingSlotSource where
  config : ShmClientConfig
  state : ClientState
  expectedPublicationEpoch : UInt64
  expectedWriterGeneration : UInt64

/-- `managed.rs:129`. -/
def publicationValidationPending : UInt64 := 0xffffffffffffffff

/-- The calls that may fail while a reader looks at the path. -/
structure OpenFaults where
  stat : Option IoError := none
  lease : Option IoError := none
  opening : Option IoError := none
  statOpened : Option IoError := none

/-- `open_current` (`managed.rs:287-317`). The file cannot be replaced under the lease, so that the
    one that is mapped is the one that is looked at afterwards. -/
def openCurrent (config : ShmClientConfig) (volume : Volume) (faults : OpenFaults) :
    PortResult OpenReader := do
  port mapManagedError (attempt (s!"acquire shared SHM authority lock " ++
    debugStr (config.path ++ ".authority.lock")) faults.lease)
  let mapping ← port mapManagedError (openReader config.path volume faults.opening)
  let header := mapping.header
  if header.layoutHash ≠ config.expectedLayoutHash then
    .error ⟨.conflict, s!"SHM manifest mismatch at {debugStr config.path}: expected " ++
      s!"0x{padZeros 16 (upperHex config.expectedLayoutHash.toNat)}, got " ++
      s!"0x{padZeros 16 (upperHex header.layoutHash.toNat)}"⟩
  else if stable header.writerGeneration = false then
    .error ⟨.conflict, s!"SHM writer generation {header.writerGeneration} is not stable"⟩
  else
    match FileIdentity.read volume faults.statOpened with
    | .error error => .error (mapIoError "stat opened SHM path" error)
    | .ok identity =>
      .ok ⟨⟨identity.inode, header.slotCount.toNat⟩, identity, header.writerGeneration⟩

/-- The mapped file has the generation that it was opened with, and that is even. -/
def OpenReader.isCurrent (opened : OpenReader) (volume : Volume) : Bool :=
  let generation := (volume.inodes opened.reader.inode).header.writerGeneration
  generation == opened.generation && generation &&& 1 == 0

namespace ReconnectingSlotSource

/-- `new` (`managed.rs:135-142`). -/
def new (config : ShmClientConfig) : ReconnectingSlotSource := ⟨config, {}, 0, 0⟩

/-- `require_coordinated_publication` (`managed.rs:146-149`). -/
def requireCoordinatedPublication (source : ReconnectingSlotSource) : ReconnectingSlotSource :=
  { source with expectedPublicationEpoch := publicationValidationPending }

/-- `accept_publication_identity` (`managed.rs:152-174`). -/
def acceptPublicationIdentity (source : ReconnectingSlotSource)
    (publicationEpoch writerGeneration : UInt64) : PortResult ReconnectingSlotSource :=
  if publicationEpoch = 0 ∨ publicationEpoch = publicationValidationPending then
    .error ⟨.invalidData, "validated SHM publication epoch must be non-zero"⟩
  else if stable writerGeneration = false then
    .error ⟨.invalidData, "validated SHM writer generation must be stable"⟩
  else .ok { source with
    expectedWriterGeneration := writerGeneration
    expectedPublicationEpoch := publicationEpoch }

/-- The end of `ensure_current` (`managed.rs:214-285`). -/
def reopen (source : ReconnectingSlotSource) (now : ℕ) (volume : Volume) (faults : OpenFaults) :
    PortResult Unit × ReconnectingSlotSource :=
  match openCurrent source.config volume faults with
  | .ok opened =>
    (.ok (), { source with
      state := ⟨some opened, some (now + source.config.identityCheckInterval), none, none⟩ })
  | .error error =>
    (.error error, { source with
      state := { source.state with
        opened := none
        nextOpenAttempt := some (now + source.config.reconnectInterval)
        lastOpenError := some error } })

/-- `ensure_current` (`managed.rs:214-285`). The generation is looked at under the read lock and
    again under the write lock. -/
def ensureCurrent (source : ReconnectingSlotSource) (now : ℕ) (view : ℕ → Volume)
    (faults : OpenFaults) : PortResult Unit × ReconnectingSlotSource :=
  match source.state.opened with
  | none =>
    if source.state.nextOpenAttempt.any (now < ·) then
      (.error (source.state.lastOpenError.getD ⟨.unavailable, "SHM writer is unavailable"⟩), source)
    else source.reopen now (view 3) faults
  | some opened =>
    let identityDue := source.state.nextIdentityCheck.all (· ≤ now)
    if opened.isCurrent (view 0) && !identityDue then (.ok (), source)
    else if opened.isCurrent (view 1) then
      if !identityDue then (.ok (), source)
      else
        match FileIdentity.read (view 2) faults.stat with
        | .ok identity =>
          if identity = opened.identity then
            (.ok (), { source with
              state := { source.state with
                nextIdentityCheck := some (now + source.config.identityCheckInterval) } })
          else source.reopen now (view 3) faults
        | .error error =>
          let mapped := mapIoError "stat canonical SHM path" error
          (.error mapped, { source with
            state := { source.state with
              lastOpenError := some mapped
              nextIdentityCheck := some (now + source.config.reconnectInterval) } })
    else source.reopen now (view 3) faults

/-- `validate_publication_identity` (`managed.rs:346-379`): two accesses. -/
def validatePublicationIdentity (source : ReconnectingSlotSource) (file : ℕ → Segment) :
    PortResult Unit :=
  let expected := source.expectedPublicationEpoch
  if expected = 0 then .ok ()
  else if expected = publicationValidationPending then
    .error ⟨.conflict, "SHM topology publication has not been validated"⟩
  else
    let observedEpoch := (file 0).header.publicationEpoch
    if observedEpoch ≠ expected then
      .error ⟨.conflict,
        s!"SHM publication epoch {observedEpoch} does not match pinned topology epoch {expected}"⟩
    else
      let writerGeneration := (file 1).header.writerGeneration
      let expectedGeneration := source.expectedWriterGeneration
      if writerGeneration ≠ expectedGeneration then
        .error ⟨.conflict, s!"SHM writer generation {writerGeneration} does not match pinned " ++
          s!"topology writer generation {expectedGeneration}"⟩
      else .ok ()

/-- `validate_reader_fence` (`managed.rs:332-344`): three accesses. -/
def validateReaderFence (source : ReconnectingSlotSource) (opened : OpenReader) (phase : String)
    (file : ℕ → Segment) : PortResult Unit :=
  let generation := (file 0).header.writerGeneration
  if generation ≠ opened.generation ∨ stable generation = false then
    .error ⟨.conflict,
      s!"SHM generation changed from {opened.generation} to {generation} {phase}"⟩
  else source.validatePublicationIdentity fun k => file (k + 1)

/-- `validate_writer_freshness` (`managed.rs:451-467`). -/
def validateWriterFreshness (file : Segment) (nowMs timeoutMs : UInt64) : PortResult Unit :=
  let heartbeat := file.header.writerHeartbeat
  if heartbeat = 0 ∨ timeoutMs.toNat < nowMs.toNat - heartbeat.toNat then
    .error ⟨.unavailable,
      s!"SHM writer heartbeat is stale: heartbeat={heartbeat}, timeout_ms={timeoutMs}"⟩
  else .ok ()

/-- `with_reader` (`managed.rs:319-330`) after `ensure_current`, for a closure that makes a number
    of accesses. The read lock on the state keeps the mapping. -/
def readThrough {α : Type} (source : ReconnectingSlotSource) (nowMs : UInt64) (view : ℕ → Volume)
    (accesses : ℕ) (read : SlotReader → (ℕ → Segment) → PortResult α) : PortResult α :=
  match source.state.opened with
  | none => .error ⟨.unavailable, "SHM reader is not connected"⟩
  | some opened => do
    let file k := (view k).inodes opened.reader.inode
    source.validateReaderFence opened "before the read" file
    validateWriterFreshness (file 3) nowMs source.config.writerStaleAfter
    let value := read opened.reader fun k => file (k + 4)
    source.validateReaderFence opened "after the read" fun k => file (k + (accesses + 4))
    value

/-- The access of `readThrough` that the result still depends on last. -/
def lastAccess (accesses : ℕ) : ℕ := accesses + 6

end ReconnectingSlotSource

/-! ## Samples -/

/-- `decode_point_quality` (`lib.rs:130-141`). -/
def decodePointQuality (code : UInt32) : PortResult PointQuality :=
  if code = 0 then .ok .good
  else if code = 1 then .ok .uncertain
  else if code = 2 then .ok .bad
  else if code = 3 then .ok .unavailable
  else .error ⟨.invalidData, s!"SHM slot contains unknown point quality code {code}"⟩

/-- `lib.rs:61-66`. -/
structure SlotSnapshot where
  value : F64
  raw : F64
  timestampMs : UInt64
  quality : PointQuality
  deriving DecidableEq, Repr

/-- `SlotIo::read_slot` (`reader.rs:153-155`), access by access: the counter, the four fields and
    the counter again. -/
def readSlotAt (reader : SlotReader) (file : ℕ → Segment) (index : ℕ) : Option SlotRead :=
  if reader.slotCount ≤ index then none
  else
    let slot k := (file k).slots index
    let seq1 := (slot 0).seq
    if seq1 % 2 ≠ 0 then none
    else
      let value := (slot 1).data.value
      let raw := (slot 2).data.raw
      let timestampMs := (slot 3).data.timestampMs
      let qualityCode := (slot 4).data.qualityCode
      let seq2 := (slot 5).seq
      if seq1 = seq2 then some ⟨value, raw, timestampMs, qualityCode⟩ else none

/-- The closure of `read_slots` (`managed.rs:416-448`), for one index. -/
def readSample (reader : SlotReader) (file : ℕ → Segment) (index : ℕ) :
    PortResult (Option SlotSnapshot) :=
  match readSlotAt reader file index with
  | none => .error ⟨.conflict, s!"slot {index} was being updated during the batch read"⟩
  | some slot => do
    let quality ← decodePointQuality slot.qualityCode
    .ok (some ⟨slot.value, slot.raw, slot.timestampMs, quality⟩)

/-- The samples one after another, six accesses each. -/
def readSamples (reader : SlotReader) :
    (ℕ → Segment) → List ℕ → PortResult (List (Option SlotSnapshot))
  | _, [] => .ok []
  | file, index :: indices => do
    let sample ← readSample reader file index
    let samples ← readSamples reader (fun k => file (k + 6)) indices
    .ok (sample :: samples)

/-- What `read_slots` (`managed.rs:416-448`) does through a reader. -/
def readBatch (indices : List ℕ) (reader : SlotReader) (file : ℕ → Segment) :
    PortResult (List (Option SlotSnapshot)) :=
  match indices.find? (reader.slotCount ≤ ·) with
  | some index =>
    .error ⟨.invalidData, s!"slot {index} is outside live slot_count {reader.slotCount}"⟩
  | none => readSamples reader file indices

namespace ReconnectingSlotSource

/-- `read_slots` (`managed.rs:416-448`). -/
def readSlots (source : ReconnectingSlotSource) (now : ℕ) (nowMs : UInt64) (view : ℕ → Volume)
    (faults : OpenFaults) (indices : List ℕ) :
    PortResult (List (Option SlotSnapshot)) × ReconnectingSlotSource :=
  if indices = [] then (.ok [], source)
  else
    match source.ensureCurrent now view faults with
    | (.error error, source) => (.error error, source)
    | (.ok (), source) =>
      (source.readThrough nowMs (fun k => view (k + 4)) (6 * indices.length) (readBatch indices),
        source)

end ReconnectingSlotSource

/-! ## Pairs of planes -/

/-- `ShmReadTopologyGeneration`. The health reader is its source and its manifest. -/
structure ShmReadTopologyGeneration where
  pointSource : ReconnectingSlotSource
  pointManifest : ChannelPointManifest
  channelHealth : ReconnectingSlotSource
  healthManifest : ChannelHealthManifest
  pointWriterGeneration : UInt64
  healthWriterGeneration : UInt64
  publicationEpoch : UInt64

/-- `validate_config_hash` (`read_topology.rs:243-253`). -/
def validateConfigHash (label : String) (configured manifest : UInt64) : PortResult Unit :=
  if configured = manifest then .ok ()
  else .error ⟨.invalidData,
    s!"{label} SHM client hash 0x{padZeros 16 (lowerHex configured.toNat)} does not match " ++
    s!"manifest hash 0x{padZeros 16 (lowerHex manifest.toNat)}"⟩

/-- `validate_layout` (`managed.rs:181-212`), under the lease. -/
def ReconnectingSlotSource.validateLayout (source : ReconnectingSlotSource)
    (expectedSlotCount now : ℕ) (volume : Volume) (faults : OpenFaults) :
    PortResult Unit × ReconnectingSlotSource :=
  match source.ensureCurrent now (fun _ => volume) faults with
  | (.error error, source) => (.error error, source)
  | (.ok (), source) =>
    match source.state.opened with
    | none => (.error ⟨.unavailable, "SHM reader is not connected"⟩, source)
    | some opened =>
      let header := (volume.inodes opened.reader.inode).header
      let generation := header.writerGeneration
      if header.slotCount.toNat ≠ expectedSlotCount then
        (.error ⟨.conflict, s!"SHM slot count {header.slotCount} does not match expected topology " ++
          s!"slot count {expectedSlotCount}"⟩, source)
      else if generation ≠ opened.generation ∨ stable generation = false then
        (.error ⟨.conflict, s!"SHM generation changed from {opened.generation} to {generation} " ++
          "during layout validation"⟩, source)
      else if source.expectedPublicationEpoch ≠ 0 ∧
          source.expectedPublicationEpoch ≠ publicationValidationPending then
        (source.validatePublicationIdentity fun _ => volume.inodes opened.reader.inode, source)
      else (.ok (), source)

/-- The calls that may fail during a validation. -/
structure PinFaults where
  witnessLease : Option IoError := none
  planeLease : Option IoError := none
  point : OpenFaults := {}
  health : OpenFaults := {}
  publication : ValidationFaults := {}

namespace ShmReadTopologyGeneration

/-- `new_lazy` (`read_topology.rs:64-106`). -/
def newLazy (pointConfig healthConfig : ShmClientConfig) (pointManifest : ChannelPointManifest)
    (healthManifest : ChannelHealthManifest) : PortResult ShmReadTopologyGeneration := do
  if pointConfig.path = healthConfig.path then
    .error ⟨.invalidData, "point and channel-health SHM paths must be distinct"⟩
  else
    validateConfigHash "point" pointConfig.expectedLayoutHash pointManifest.layoutHash
    validateConfigHash "channel-health" healthConfig.expectedLayoutHash healthManifest.layoutHash
    .ok
      { pointSource := (ReconnectingSlotSource.new pointConfig).requireCoordinatedPublication
        pointManifest := pointManifest
        channelHealth := (ReconnectingSlotSource.new healthConfig).requireCoordinatedPublication
        healthManifest := healthManifest
        pointWriterGeneration := 0
        healthWriterGeneration := 0
        publicationEpoch := 0 }

/-- What the reader expects. -/
def expected (topology : ShmReadTopologyGeneration) : ExpectedTopology where
  pointHash := topology.pointManifest.layoutHash
  pointSlots := topology.pointManifest.slotCount
  healthHash := topology.healthManifest.layoutHash
  healthSlots := topology.healthManifest.slotCount

/-- `validate_locked_publication` (`read_topology.rs:166-178`). -/
def validateLockedPublication (topology : ShmReadTopologyGeneration) (now : ℕ)
    (point health : Volume) (witness : Option Bytes) (faults : PinFaults) :
    PortResult TopologyPublicationCommit × ShmReadTopologyGeneration :=
  match topology.pointSource.validateLayout topology.pointManifest.slotCount now point
      faults.point with
  | (.error error, source) => (.error error, { topology with pointSource := source })
  | (.ok (), pointSource) =>
    let topology := { topology with pointSource := pointSource }
    match topology.channelHealth.validateLayout topology.healthManifest.slotCount now health
        faults.health with
    | (.error error, source) => (.error error, { topology with channelHealth := source })
    | (.ok (), channelHealth) =>
      let topology := { topology with channelHealth := channelHealth }
      (validateTopologyPublicationLocked topology.pointSource.config.path
        topology.channelHealth.config.path point health witness topology.expected
        faults.publication, topology)

/-- `pin_publication` (`read_topology.rs:180-197`). -/
def pinPublication (topology : ShmReadTopologyGeneration)
    (publication : TopologyPublicationCommit) : PortResult Unit × ShmReadTopologyGeneration :=
  match topology.pointSource.acceptPublicationIdentity publication.publicationEpoch
      publication.pointWriterGeneration with
  | .error error => (.error error, topology)
  | .ok pointSource =>
    let topology := { topology with pointSource := pointSource }
    match topology.channelHealth.acceptPublicationIdentity publication.publicationEpoch
        publication.healthWriterGeneration with
    | .error error => (.error error, topology)
    | .ok channelHealth =>
      (.ok (), { topology with
        channelHealth := channelHealth
        pointWriterGeneration := publication.pointWriterGeneration
        healthWriterGeneration := publication.healthWriterGeneration
        publicationEpoch := publication.publicationEpoch })

/-- `with_validated_authority` (`read_topology.rs:132-158`), under the leases of the witness and of
    both planes. `open` does the same to a lazy generation. -/
def withValidatedAuthority (topology : ShmReadTopologyGeneration) (now : ℕ)
    (point health : Volume) (witness : Option Bytes) (faults : PinFaults) :
    PortResult Unit × ShmReadTopologyGeneration :=
  match port mapManagedError (attempt "acquire shared SHM authority lock" faults.witnessLease),
      port mapManagedError (attempt "acquire shared SHM authority lock" faults.planeLease) with
  | .error error, _ => (.error error, topology)
  | .ok (), .error error => (.error error, topology)
  | .ok (), .ok () =>
    match topology.validateLockedPublication now point health witness faults with
    | (.error error, topology) => (.error error, topology)
    | (.ok observed, topology) =>
      if topology.publicationEpoch ≠ 0 ∧
          (observed.publicationEpoch ≠ topology.publicationEpoch ∨
            observed.pointWriterGeneration ≠ topology.pointWriterGeneration ∨
            observed.healthWriterGeneration ≠ topology.healthWriterGeneration) then
        (.error ⟨.conflict, s!"SHM topology publication changed from epoch/writers " ++
          s!"{topology.publicationEpoch}/{topology.pointWriterGeneration}/" ++
          s!"{topology.healthWriterGeneration} to {observed.publicationEpoch}/" ++
          s!"{observed.pointWriterGeneration}/{observed.healthWriterGeneration}"⟩, topology)
      else topology.pinPublication observed

end ShmReadTopologyGeneration

/-! ## What the functions do -/

/-- The file at the path is mapped, under the expected layout and a stable generation. -/
structure OpenedAt (volume : Volume) (layoutHash : UInt64) (opened : OpenReader) : Prop where
  canonical : volume.canonical = some opened.reader.inode
  layoutHash : (volume.inodes opened.reader.inode).header.layoutHash = layoutHash
  slotCount : (volume.inodes opened.reader.inode).header.slotCount.toNat = opened.reader.slotCount

theorem FileIdentity.read_eq_ok {volume : Volume} {fault : Option IoError}
    {identity : FileIdentity} (h : FileIdentity.read volume fault = .ok identity) :
    volume.canonical = some identity.inode := by
  cases fault with
  | some error => cases h
  | none =>
    unfold FileIdentity.read at h
    cases hcan : volume.canonical with
    | none =>
      rw [hcan] at h
      cases h
    | some inode =>
      rw [hcan] at h
      cases h
      rfl

theorem openCurrent_eq_ok {config : ShmClientConfig} {volume : Volume} {faults : OpenFaults}
    {opened : OpenReader} (h : openCurrent config volume faults = .ok opened) :
    OpenedAt volume config.expectedLayoutHash opened := by
  unfold openCurrent at h
  obtain ⟨-, -, h⟩ := bind_eq_ok.1 h
  obtain ⟨mapping, hmap, h⟩ := bind_eq_ok.1 h
  obtain ⟨-, inode, hcan, -, rfl⟩ := openReader_eq_ok_iff.1 (port_eq_ok_iff.1 hmap)
  dsimp only at h
  split_ifs at h with hlay hstab
  rcases hident : FileIdentity.read volume faults.statOpened with error | identity
  · rw [hident] at h
    cases h
  rw [hident] at h
  cases h
  have hinode := FileIdentity.read_eq_ok hident
  obtain rfl := Option.some.inj (hcan.symm.trans hinode)
  exact ⟨hcan, not_not.1 hlay, rfl⟩

/-- A source that has looked at the path: it keeps what it is pinned to, and its mapping is the one
    that it had or that of the file at the path. -/
structure Follows (source source' : ReconnectingSlotSource) (volume : Volume) : Prop where
  config : source'.config = source.config
  epoch : source'.expectedPublicationEpoch = source.expectedPublicationEpoch
  generation : source'.expectedWriterGeneration = source.expectedWriterGeneration
  opened : ∀ opened, source'.state.opened = some opened → source.state.opened = some opened ∨
    OpenedAt volume source.config.expectedLayoutHash opened

variable {file : ℕ → Segment}

namespace ReconnectingSlotSource

variable {source : ReconnectingSlotSource} {now : ℕ} {faults : OpenFaults}

theorem follows_refl (source : ReconnectingSlotSource) (volume : Volume) :
    Follows source source volume :=
  ⟨rfl, rfl, rfl, fun _ h => .inl h⟩

theorem follows_reopen (source : ReconnectingSlotSource) (now : ℕ) (volume : Volume)
    (faults : OpenFaults) : Follows source (source.reopen now volume faults).2 volume := by
  unfold reopen
  cases hopen : openCurrent source.config volume faults with
  | ok opened =>
    refine ⟨rfl, rfl, rfl, fun opened' h => .inr ?_⟩
    cases h
    exact openCurrent_eq_ok hopen
  | error error => exact ⟨rfl, rfl, rfl, fun opened h => by cases h⟩

/-- A reader keeps its mapping, drops it, or maps the file at the path. -/
theorem follows_ensureCurrent (source : ReconnectingSlotSource) (now : ℕ) (view : ℕ → Volume)
    (faults : OpenFaults) : Follows source (source.ensureCurrent now view faults).2 (view 3) := by
  unfold ensureCurrent
  cases hopened : source.state.opened with
  | none =>
    dsimp only
    split_ifs
    · exact follows_refl source _
    · exact follows_reopen source now (view 3) faults
  | some opened =>
    dsimp only
    split_ifs
    · exact follows_refl source _
    · exact follows_refl source _
    · rcases FileIdentity.read (view 2) faults.stat with error | identity
      · exact ⟨rfl, rfl, rfl, fun _ h => .inl h⟩
      dsimp only
      split_ifs
      · exact ⟨rfl, rfl, rfl, fun _ h => .inl h⟩
      · exact follows_reopen source now (view 3) faults
    · exact follows_reopen source now (view 3) faults

theorem follows_validateLayout (source : ReconnectingSlotSource) (expectedSlotCount now : ℕ)
    (volume : Volume) (faults : OpenFaults) :
    Follows source (source.validateLayout expectedSlotCount now volume faults).2 volume := by
  have hensure := follows_ensureCurrent source now (fun _ => volume) faults
  unfold validateLayout
  generalize source.ensureCurrent now (fun _ => volume) faults = ensured at hensure ⊢
  obtain ⟨error | _, source'⟩ := ensured
  · exact hensure
  dsimp only
  rcases source'.state.opened with _ | opened
  · exact hensure
  dsimp only
  split_ifs
  · exact hensure
  · exact hensure
  · exact hensure
  · exact hensure

theorem validatePublicationIdentity_eq_ok (hpin : source.expectedPublicationEpoch ≠ 0)
    (h : source.validatePublicationIdentity file = .ok ()) :
    source.expectedPublicationEpoch ≠ publicationValidationPending ∧
      (file 0).header.publicationEpoch = source.expectedPublicationEpoch ∧
      (file 1).header.writerGeneration = source.expectedWriterGeneration := by
  unfold validatePublicationIdentity at h
  dsimp only at h
  rw [if_neg hpin] at h
  split_ifs at h with hpend hep hgen
  exact ⟨hpend, not_not.1 hep, not_not.1 hgen⟩

theorem validateReaderFence_eq_ok {opened : OpenReader} {phase : String}
    (h : source.validateReaderFence opened phase file = .ok ()) :
    source.validatePublicationIdentity (fun k => file (k + 1)) = .ok () := by
  unfold validateReaderFence at h
  dsimp only at h
  split_ifs at h
  exact h

/-- What the second fence of a read has seen, and what was read before it. -/
theorem readThrough_eq_ok {α : Type} {nowMs : UInt64} {view : ℕ → Volume} {accesses : ℕ}
    {read : SlotReader → (ℕ → Segment) → PortResult α} {value : α}
    (hpin : source.expectedPublicationEpoch ≠ 0)
    (h : source.readThrough nowMs view accesses read = .ok value) :
    ∃ opened, source.state.opened = some opened ∧
      source.expectedPublicationEpoch ≠ publicationValidationPending ∧
      ((view (accesses + 5)).inodes opened.reader.inode).header.publicationEpoch =
        source.expectedPublicationEpoch ∧
      ((view (lastAccess accesses)).inodes opened.reader.inode).header.writerGeneration =
        source.expectedWriterGeneration ∧
      read opened.reader (fun k => (view (k + 4)).inodes opened.reader.inode) = .ok value := by
  unfold readThrough at h
  rcases hopened : source.state.opened with _ | opened
  · rw [hopened] at h
    cases h
  rw [hopened] at h
  dsimp only at h
  obtain ⟨-, -, h⟩ := bind_eq_ok.1 h
  obtain ⟨-, -, h⟩ := bind_eq_ok.1 h
  obtain ⟨_, haft, hvl⟩ := bind_eq_ok.1 h
  obtain ⟨hpend, hep, hgen⟩ :=
    validatePublicationIdentity_eq_ok hpin (validateReaderFence_eq_ok haft)
  rw [Nat.add_comm 1] at hep
  rw [Nat.add_comm 2] at hgen
  exact ⟨opened, rfl, hpend, hep, hgen, hvl⟩

theorem acceptPublicationIdentity_eq_ok {publicationEpoch writerGeneration : UInt64}
    {source' : ReconnectingSlotSource}
    (h : source.acceptPublicationIdentity publicationEpoch writerGeneration = .ok source') :
    stable writerGeneration = true ∧ publicationEpoch ≠ 0 ∧
      source' = { source with
        expectedWriterGeneration := writerGeneration
        expectedPublicationEpoch := publicationEpoch } := by
  unfold acceptPublicationIdentity at h
  split_ifs at h with hep hstab
  cases h
  exact ⟨Bool.eq_true_of_not_eq_false hstab, fun heq => hep (.inl heq), rfl⟩

end ReconnectingSlotSource

/-- The accesses at which the fields of a sample were loaded. -/
structure SampleOf (sample : SlotSnapshot) (file : ℕ → Segment) (index : ℕ) : Prop where
  value : sample.value = ((file 1).slots index).data.value
  raw : sample.raw = ((file 2).slots index).data.raw
  timestampMs : sample.timestampMs = ((file 3).slots index).data.timestampMs
  quality : decodePointQuality ((file 4).slots index).data.qualityCode = .ok sample.quality

variable {reader : SlotReader}

theorem readSample_eq_ok {index : ℕ} {sample : Option SlotSnapshot}
    (h : readSample reader file index = .ok sample) :
    ∃ snapshot, sample = some snapshot ∧ SampleOf snapshot file index := by
  unfold readSample readSlotAt at h
  dsimp only at h
  split_ifs at h
  obtain ⟨quality, hqual, h⟩ := bind_eq_ok.1 h
  cases h
  exact ⟨_, rfl, rfl, rfl, rfl, hqual⟩

variable {samples : List (Option SlotSnapshot)}

theorem readSamples_eq_ok {indices : List ℕ} (h : readSamples reader file indices = .ok samples)
    {i index : ℕ} (hi : indices[i]? = some index) :
    ∃ snapshot, samples[i]? = some (some snapshot) ∧
      SampleOf snapshot (fun k => file (k + 6 * i)) index := by
  induction indices generalizing file samples i with
  | nil => cases hi
  | cons first indices ih =>
    obtain ⟨sample, hsmp, h⟩ := bind_eq_ok.1 h
    obtain ⟨rest, hrest, h⟩ := bind_eq_ok.1 h
    cases h
    rcases i with _ | i
    · cases hi
      obtain ⟨snapshot, rfl, hof⟩ := readSample_eq_ok hsmp
      exact ⟨snapshot, rfl, hof⟩
    obtain ⟨snapshot, hsnap, hof⟩ := ih hrest hi
    refine ⟨snapshot, hsnap, ?_⟩
    have hshift : (fun k => file (k + 6 * (i + 1))) = fun k => file (k + 6 * i + 6) := by
      funext k
      congr 1
    rw [hshift]
    exact hof

theorem readBatch_eq_ok {indices : List ℕ} (h : readBatch indices reader file = .ok samples) :
    readSamples reader file indices = .ok samples := by
  unfold readBatch at h
  cases hfind : indices.find? (reader.slotCount ≤ ·) with
  | some index =>
    rw [hfind] at h
    cases h
  | none =>
    rw [hfind] at h
    exact h

namespace ShmReadTopologyGeneration

variable {topology : ShmReadTopologyGeneration}

theorem newLazy_eq_ok {pointConfig healthConfig : ShmClientConfig}
    {pointManifest : ChannelPointManifest} {healthManifest : ChannelHealthManifest}
    (h : newLazy pointConfig healthConfig pointManifest healthManifest = .ok topology) :
    topology =
      { pointSource := ⟨pointConfig, {}, publicationValidationPending, 0⟩
        pointManifest := pointManifest
        channelHealth := ⟨healthConfig, {}, publicationValidationPending, 0⟩
        healthManifest := healthManifest
        pointWriterGeneration := 0
        healthWriterGeneration := 0
        publicationEpoch := 0 } ∧
    pointConfig.expectedLayoutHash = pointManifest.layoutHash ∧
    healthConfig.expectedLayoutHash = healthManifest.layoutHash := by
  unfold newLazy at h
  by_cases hpaths : pointConfig.path = healthConfig.path
  · rw [if_pos hpaths] at h
    cases h
  rw [if_neg hpaths] at h
  obtain ⟨_, hpt, h⟩ := bind_eq_ok.1 h
  obtain ⟨_, hhealth, h⟩ := bind_eq_ok.1 h
  unfold validateConfigHash at hpt hhealth
  split_ifs at hpt hhealth with hhashP hhashH
  cases h
  exact ⟨rfl, hhashP, hhashH⟩

/-- The publication that is at the paths, as far as the reader can tell. -/
def Validates (topology : ShmReadTopologyGeneration) (point health : Volume)
    (witness : Option Bytes) (commit : TopologyPublicationCommit) : Prop :=
  ∃ faults, validateTopologyPublicationLocked topology.pointSource.config.path
    topology.channelHealth.config.path point health witness topology.expected faults = .ok commit

end ShmReadTopologyGeneration

/-- A source that has looked at the path, and has perhaps been pinned then. -/
def Repinned (source source' : ReconnectingSlotSource) (volume : Volume)
    (publication : UInt64 → UInt64 → Prop) : Prop :=
  ∃ looked, Follows source looked volume ∧ (source' = looked ∨ ∃ epoch generation,
    publication epoch generation ∧ stable generation = true ∧ epoch ≠ 0 ∧
    source' = { looked with
      expectedWriterGeneration := generation
      expectedPublicationEpoch := epoch })

namespace ShmReadTopologyGeneration

/-- What a validation does to a generation. -/
structure Authorized (topology topology' : ShmReadTopologyGeneration) (point health : Volume)
    (witness : Option Bytes) : Prop where
  pointManifest : topology'.pointManifest = topology.pointManifest
  healthManifest : topology'.healthManifest = topology.healthManifest
  pointSource : Repinned topology.pointSource topology'.pointSource point fun epoch generation =>
    ∃ commit, topology.Validates point health witness commit ∧ commit.publicationEpoch = epoch ∧
      commit.pointWriterGeneration = generation
  channelHealth : Repinned topology.channelHealth topology'.channelHealth health
    fun epoch generation =>
      ∃ commit, topology.Validates point health witness commit ∧
        commit.publicationEpoch = epoch ∧ commit.healthWriterGeneration = generation

variable {topology : ShmReadTopologyGeneration}

/-- A validation that pins nothing. -/
theorem Authorized.of_follows {point health : Volume} {witness : Option Bytes}
    {pointSource channelHealth : ReconnectingSlotSource}
    (hpt : Follows topology.pointSource pointSource point)
    (hhealth : Follows topology.channelHealth channelHealth health) :
    Authorized topology
      { topology with pointSource := pointSource, channelHealth := channelHealth }
      point health witness :=
  ⟨rfl, rfl, ⟨_, hpt, .inl rfl⟩, ⟨_, hhealth, .inl rfl⟩⟩

/-- The two layouts have been looked at before the publication is validated. -/
theorem validateLockedPublication_cases (topology : ShmReadTopologyGeneration) (now : ℕ)
    (point health : Volume) (witness : Option Bytes) (faults : PinFaults) :
    ∃ pointSource channelHealth, Follows topology.pointSource pointSource point ∧
      Follows topology.channelHealth channelHealth health ∧
      (topology.validateLockedPublication now point health witness faults).2 =
        { topology with pointSource := pointSource, channelHealth := channelHealth } ∧
      ∀ commit, (topology.validateLockedPublication now point health witness faults).1 =
        .ok commit → topology.Validates point health witness commit := by
  have hpt := topology.pointSource.follows_validateLayout topology.pointManifest.slotCount now
    point faults.point
  have hhealth := topology.channelHealth.follows_validateLayout topology.healthManifest.slotCount
    now health faults.health
  unfold validateLockedPublication
  generalize topology.pointSource.validateLayout _ now point faults.point = pointResult
    at hpt ⊢
  obtain ⟨error | _, pointSource⟩ := pointResult
  · exact ⟨pointSource, topology.channelHealth, hpt, ReconnectingSlotSource.follows_refl _ _,
      rfl, fun commit h => by cases h⟩
  dsimp only
  generalize topology.channelHealth.validateLayout _ now health faults.health = healthResult
    at hhealth ⊢
  obtain ⟨error | _, channelHealth⟩ := healthResult
  · exact ⟨pointSource, channelHealth, hpt, hhealth, rfl, fun commit h => by cases h⟩
  refine ⟨pointSource, channelHealth, hpt, hhealth, rfl, fun commit h => ?_⟩
  dsimp only at h
  rw [hpt.config, hhealth.config] at h
  exact ⟨faults.publication, h⟩

theorem authorized_pinPublication {point health : Volume} {witness : Option Bytes}
    {commit : TopologyPublicationCommit} {pointSource channelHealth : ReconnectingSlotSource}
    (hpt : Follows topology.pointSource pointSource point)
    (hhealth : Follows topology.channelHealth channelHealth health)
    (hcomm : topology.Validates point health witness commit) :
    Authorized topology
      (({ topology with
        pointSource := pointSource
        channelHealth := channelHealth } : ShmReadTopologyGeneration).pinPublication commit).2
      point health witness := by
  unfold pinPublication
  dsimp only
  cases haccP : pointSource.acceptPublicationIdentity commit.publicationEpoch
    commit.pointWriterGeneration with
  | error error => exact .of_follows hpt hhealth
  | ok pinnedPoint =>
    obtain ⟨hstabP, hep, hpinnedPoint⟩ :=
      ReconnectingSlotSource.acceptPublicationIdentity_eq_ok haccP
    have hrepinned : Repinned topology.pointSource pinnedPoint point fun epoch generation =>
        ∃ commit, topology.Validates point health witness commit ∧
          commit.publicationEpoch = epoch ∧ commit.pointWriterGeneration = generation :=
      ⟨pointSource, hpt, .inr ⟨_, _, ⟨commit, hcomm, rfl, rfl⟩, hstabP, hep,
        hpinnedPoint⟩⟩
    dsimp only
    cases haccH : channelHealth.acceptPublicationIdentity commit.publicationEpoch
      commit.healthWriterGeneration with
    | error error => exact ⟨rfl, rfl, hrepinned, ⟨channelHealth, hhealth, .inl rfl⟩⟩
    | ok pinnedHealth =>
      obtain ⟨hstabH, -, hpinnedHealth⟩ :=
        ReconnectingSlotSource.acceptPublicationIdentity_eq_ok haccH
      exact ⟨rfl, rfl, hrepinned, ⟨channelHealth, hhealth, .inr ⟨_, _, ⟨commit, hcomm, rfl, rfl⟩,
        hstabH, hep, hpinnedHealth⟩⟩⟩

/-- A generation is pinned only to a publication that has been validated. -/
theorem authorized_withValidatedAuthority (topology : ShmReadTopologyGeneration) (now : ℕ)
    (point health : Volume) (witness : Option Bytes) (faults : PinFaults) :
    Authorized topology (topology.withValidatedAuthority now point health witness faults).2
      point health witness := by
  have hkept : Authorized topology topology point health witness :=
    .of_follows (ReconnectingSlotSource.follows_refl _ _) (ReconnectingSlotSource.follows_refl _ _)
  obtain ⟨pointSource, channelHealth, hpt, hhealth, hlooked, hvalidates⟩ :=
    topology.validateLockedPublication_cases now point health witness faults
  unfold withValidatedAuthority
  split
  · exact hkept
  · exact hkept
  · generalize topology.validateLockedPublication now point health witness faults = result
      at hlooked hvalidates ⊢
    obtain ⟨error | commit, looked⟩ := result
    · obtain rfl := hlooked
      exact .of_follows hpt hhealth
    obtain rfl := hlooked
    dsimp only
    split_ifs
    · exact .of_follows hpt hhealth
    · exact authorized_pinPublication hpt hhealth (hvalidates commit rfl)

end ShmReadTopologyGeneration

end AetherEdge.Shm
