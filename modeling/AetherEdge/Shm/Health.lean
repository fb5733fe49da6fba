import AetherEdge.Shm.Manifest
import AetherEdge.Shm.Migration

/-!
# The channel-health plane

Model of `ChannelHealthManifest` and of the publication of a health generation
(`libs/aether-shm-bridge/src/health.rs`). A channel has one slot, the index of its identifier
in the sorted list. A rebuild copies the observations of the channels in both manifests, and
unlike the point plane it looks at what it copies.

* `slotFor_eq_some_iff`: the slot of a channel;
* `created_of_stageHealthWriter`: the header of the new file.
-/

namespace AetherEdge.Shm

open Dataplane OrderedMap Volume List

/-! ## Manifests -/

/-- `calculate_health_layout_hash` (lines 119-128), with the hasher. -/
def calculateHealthLayoutHash (fxHasher : List HashWrite → UInt64) (channelIds : List UInt32) :
    UInt64 :=
  fxHasher ([.str "aether.channel-health.layout.v5", .u64 channelIds.length] ++
    channelIds.zipIdx.flatMap fun (channelId, slot) => [.u64 slot, .u32 channelId])

/-- Lines 25-28. -/
structure ChannelHealthManifest where
  channelIds : List UInt32
  layoutHash : UInt64
  sorted : channelIds.Pairwise (· < ·)
  deriving DecidableEq

/-- The first of two equal neighbours. -/
def findDuplicate : List UInt32 → Option UInt32
  | first :: second :: rest =>
    if first = second then some first else findDuplicate (second :: rest)
  | _ => none

/-- A sorted list without equal neighbours increases. -/
theorem pairwise_lt_of_findDuplicate {ids : List UInt32} (hsort : ids.Pairwise (· ≤ ·))
    (h : findDuplicate ids = none) : ids.Pairwise (· < ·) := by
  induction ids with
  | nil => exact .nil
  | cons first rest ih =>
    rw [pairwise_cons] at hsort
    rcases rest with _ | ⟨second, rest⟩
    · exact pairwise_singleton _ _
    unfold findDuplicate at h
    by_cases heq : first = second
    · rw [if_pos heq] at h
      cases h
    rw [if_neg heq] at h
    have hrest := ih hsort.2 h
    have hlt : first < second :=
      UInt32.lt_of_le_of_ne (hsort.1 second mem_cons_self) heq
    refine pairwise_cons.2 ⟨fun id hid => ?_, hrest⟩
    rcases mem_cons.1 hid with rfl | hid
    · exact hlt
    · exact UInt32.lt_trans hlt ((pairwise_cons.1 hrest).1 id hid)

namespace ChannelHealthManifest

/-- `sort_unstable`. -/
def sortIds (channelIds : List UInt32) : List UInt32 :=
  channelIds.mergeSort fun a b => decide (a ≤ b)

theorem pairwise_sortIds (channelIds : List UInt32) : (sortIds channelIds).Pairwise (· ≤ ·) :=
  pairwise_mergeSort' (· ≤ ·) channelIds

/-- `compile` (lines 35-64). -/
def compile (fxHasher : List HashWrite → UInt64) (channelIds : List UInt32) (maxSlots : ℕ) :
    PortResult ChannelHealthManifest :=
  if maxSlots < channelIds.length then
    .error ⟨.invalidData, s!"channel-health manifest exceeds configured capacity {maxSlots}"⟩
  else
    let configured := sortIds channelIds
    match h : findDuplicate configured with
    | some duplicate =>
      .error ⟨.invalidData, s!"duplicate channel {duplicate} in channel-health manifest"⟩
    | none => .ok ⟨configured, calculateHealthLayoutHash fxHasher configured,
        pairwise_lt_of_findDuplicate (pairwise_sortIds channelIds) h⟩

/-- `slot_for` (lines 88-90). -/
def slotFor (manifest : ChannelHealthManifest) (channelId : UInt32) : Option ℕ :=
  binarySearch manifest.channelIds channelId

/-- `slot_count` (lines 94-96). -/
def slotCount (manifest : ChannelHealthManifest) : ℕ := manifest.channelIds.length

/-- The channels with their slots. -/
def iterChannels (manifest : ChannelHealthManifest) : List (ℕ × UInt32) :=
  manifest.channelIds.zipIdx.map Prod.swap

variable (manifest : ChannelHealthManifest)

theorem nodup_channelIds : manifest.channelIds.Nodup :=
  manifest.sorted.imp fun hlt => UInt32.ne_of_lt hlt

variable {channelId : UInt32}

theorem slotFor_eq_some_iff {slot : ℕ} :
    manifest.slotFor channelId = some slot ↔ manifest.channelIds[slot]? = some channelId :=
  binarySearch_eq_some_iff manifest.nodup_channelIds

theorem eq_of_slotFor {channelId' : UInt32} {slot : ℕ} (h : manifest.slotFor channelId = some slot)
    (h' : manifest.slotFor channelId' = some slot) : channelId = channelId' := by
  rw [slotFor_eq_some_iff] at h h'
  exact Option.some.inj (h.symm.trans h')

theorem mem_iterChannels {slot : ℕ} :
    (slot, channelId) ∈ manifest.iterChannels ↔ manifest.slotFor channelId = some slot := by
  rw [slotFor_eq_some_iff, iterChannels, mem_map]
  constructor
  · rintro ⟨pair, hmem, heq⟩
    obtain ⟨rfl, rfl⟩ := Prod.mk.inj heq
    exact mem_zipIdx_iff_getElem?.1 hmem
  · intro h
    exact ⟨(channelId, slot), mem_zipIdx_iff_getElem?.2 h, rfl⟩

theorem nodup_iterChannels : (manifest.iterChannels.map Prod.fst).Nodup := by
  have hsnd : manifest.iterChannels.map Prod.fst = manifest.channelIds.zipIdx.map Prod.snd := by
    rw [iterChannels, map_map]
    rfl
  rw [hsnd, zipIdx_map_snd]
  exact nodup_range'

end ChannelHealthManifest

/-! ## Migration -/

/-- Lines 131-134. -/
structure ShmChannelHealthWriter where
  writer : SlotWriter
  manifest : ChannelHealthManifest

/-- `ShmChannelHealthWriterHandle`, with the files that it works on. -/
structure HealthPlane where
  path : String
  current : Option ShmChannelHealthWriter
  volume : Volume

/-- What is copied of an observation: nothing of an unwritten slot, and only a state that is one. -/
def healthSample (channelId : UInt32) (sample : SlotRead) : PortResult (Option SlotRead) :=
  if sample.value.isNan then .ok none
  else
    let validOffline := sample.value.eq F64.zero && sample.raw.eq F64.zero
    let validOnline := sample.value.eq F64.one && sample.raw.eq F64.one
    if !validOffline && !validOnline then
      .error ⟨.invalidData, s!"channel {channelId} has invalid health state"⟩
    else .ok (some sample)

/-- The observation of a slot of the previous generation. -/
def readHealth (file : Segment) (previous : ShmChannelHealthWriter) (channelId : UInt32)
    (slot : ℕ) : PortResult SlotRead :=
  match file.readSlot previous.writer.slotCount slot with
  | none => .error ⟨.conflict, s!"channel {channelId} health state changed during migration"⟩
  | some sample => .ok sample

/-- `migrate_intersection` (lines 447-495), over the channels of the new manifest. -/
def migrateIntersection (file : Segment) (previous : ShmChannelHealthWriter)
    (manifest : ChannelHealthManifest) : List UInt32 → Segment → PortResult Segment
  | [], staging => .ok staging
  | channelId :: rest, staging =>
    match previous.manifest.slotFor channelId with
    | none => migrateIntersection file previous manifest rest staging
    | some previousSlot =>
      match manifest.slotFor channelId with
      | none => .error ⟨.conflict,
          s!"channel {channelId} disappeared from the replacement health manifest"⟩
      | some targetSlot => do
        let found ← readHealth file previous channelId previousSlot
        let sample ← healthSample channelId found
        migrateIntersection file previous manifest rest (receive staging targetSlot sample)

/-- The observation that is copied for a channel. -/
def healthToMigrate (file : Segment) (previous : ShmChannelHealthWriter) (channelId : UInt32) :
    PortResult (Option SlotRead) :=
  match previous.manifest.slotFor channelId with
  | none => .ok none
  | some slot => readHealth file previous channelId slot >>= healthSample channelId

/-- The loop copies each channel to its own slot. -/
theorem migrateIntersection_eq {file : Segment} {previous : ShmChannelHealthWriter}
    {manifest : ChannelHealthManifest} {pairs : List (ℕ × UInt32)}
    (h : ∀ slot channelId, (slot, channelId) ∈ pairs → manifest.slotFor channelId = some slot)
    (staging : Segment) :
    migrateIntersection file previous manifest (pairs.map Prod.snd) staging =
      migrate (healthToMigrate file previous) pairs staging := by
  induction pairs generalizing staging with
  | nil => rfl
  | cons pair rest ih =>
    obtain ⟨target, channelId⟩ := pair
    have hrest := fun slot id hmem => h slot id (mem_cons_of_mem _ hmem)
    have htarget := h target channelId mem_cons_self
    simp only [map_cons, migrateIntersection, migrate, healthToMigrate, htarget]
    cases previous.manifest.slotFor channelId with
    | none => exact ih hrest staging
    | some slot =>
      simp only [ih hrest]
      exact (bind_assoc _ _ _).symm

/-! ## Publication -/

/-- The arguments of `rebuild`, with what `new_generation` reads and the calls that fail. -/
structure HealthRebuildRequest where
  manifest : ChannelHealthManifest
  publicationEpoch : UInt64
  wallNanos : UInt64
  sequence : UInt64
  /-- the check of the path before the new file is staged -/
  authority : Option IoError := none
  faults : PublishFaults := {}

/-- The live state of the previous generation in a new file. -/
def migrateHealthFrom (volume : Volume) (manifest : ChannelHealthManifest) (staging : Segment) :
    Option ShmChannelHealthWriter → PortResult Segment
  | none => .ok staging
  | some previous => do
    let file := volume.inodes previous.writer.inode
    let staging ← migrateIntersection file previous manifest manifest.channelIds staging
    .ok (updateHeartbeat staging file.header.writerHeartbeat)

/-- The check of the writer in use. -/
def validatePrevious (plane : HealthPlane) (fault : Option IoError) : PortResult Unit :=
  match plane.current with
  | none => .ok ()
  | some previous => port mapManagedError (validateAuthoritativePath plane.path plane.volume previous.writer fault)

/-- The new file, complete before it is visible. -/
def stageHealthWriter (plane : HealthPlane) (request : HealthRebuildRequest) :
    PortResult Segment := do
  port mapManagedError (attempt (s!"acquire exclusive SHM authority lock " ++
    debugStr (plane.path ++ ".authority.lock")) request.faults.lock)
  validatePrevious plane request.authority
  port mapManagedError (attempt s!"create SHM file for {debugStr plane.path}" request.faults.create)
  let staging ← port mapManagedError (Segment.create request.manifest.slotCount request.manifest.layoutHash
    request.publicationEpoch (newGeneration request.wallNanos request.sequence))
  let staging ← migrateHealthFrom plane.volume request.manifest staging plane.current
  port mapManagedError (attempt "flush SHM mmap" request.faults.flush)
  .ok staging

/-- The writer of the file at the path. -/
def reopenHealthWriter (path : String) (volume : Volume) (manifest : ChannelHealthManifest)
    (faults : PublishFaults) : PortResult ShmChannelHealthWriter := do
  let writer ← port mapManagedError (openExisting path volume manifest.slotCount manifest.layoutHash faults.reopen)
  .ok ⟨writer, manifest⟩

/-- `publish_health_writer` (lines 385-445). -/
def publishHealthWriter (plane : HealthPlane) (request : HealthRebuildRequest) :
    PortResult ShmChannelHealthWriter × Volume :=
  match stageHealthWriter plane request with
  | .error error => (.error error, plane.volume)
  | .ok staging =>
    match replaceCanonical plane.path plane.volume mapManagedError (plane.current.map (·.writer)) staging
        request.faults with
    | (.error error, volume) => (.error error, volume)
    | (.ok (), volume) =>
      (reopenHealthWriter plane.path volume request.manifest request.faults, volume)

/-- `publication_epoch` (lines 205-207) of a writer. -/
def HealthPlane.publicationEpoch (plane : HealthPlane) (current : ShmChannelHealthWriter) :
    UInt64 :=
  (plane.volume.inodes current.writer.inode).header.publicationEpoch

/-- What `rebuild` (lines 265-302) checks first. -/
def checkHealthRequest (plane : HealthPlane) (request : HealthRebuildRequest) : PortResult Unit := do
  validateTopologyPublicationEpoch request.publicationEpoch
  if plane.current.any (fun current =>
      plane.publicationEpoch current == request.publicationEpoch) then
    .error ⟨.invalidData,
      s!"channel-health SHM publication epoch {request.publicationEpoch} was already used"⟩
  else .ok ()

/-- `rebuild` (lines 265-302). -/
def rebuildHealth (plane : HealthPlane) (request : HealthRebuildRequest) :
    PortResult Unit × HealthPlane :=
  match checkHealthRequest plane request with
  | .error error => (.error error, plane)
  | .ok () =>
    match publishHealthWriter plane request with
    | (.error error, volume) => (.error error, { plane with volume := volume })
    | (.ok current, volume) => (.ok (), { plane with current := some current, volume := volume })

theorem created_of_stageHealthWriter {plane : HealthPlane} {request : HealthRebuildRequest}
    {staging : Segment} (h : stageHealthWriter plane request = .ok staging) :
    Created request.manifest.slotCount request.manifest.layoutHash request.publicationEpoch
      (newGeneration request.wallNanos request.sequence) staging ∧
    request.publicationEpoch ≠ 0 ∧ request.manifest.slotCount < 2 ^ 32 := by
  unfold stageHealthWriter at h
  simp only [bind_eq_ok, exists_unit, port_eq_ok_iff, Segment.create_eq_ok_iff,
    Except.ok.injEq] at h
  obtain ⟨-, -, -, file, ⟨hep, hcnt, rfl⟩, migrated, hmig, -, rfl⟩ := h
  refine ⟨?_, hep, hcnt⟩
  rcases hcur : plane.current with _ | previous
  · rw [hcur] at hmig
    cases hmig
    exact created_fresh
  rw [hcur] at hmig
  obtain ⟨copied, hcop, hmig⟩ := bind_eq_ok.1 hmig
  cases hmig
  have hids : request.manifest.channelIds = request.manifest.iterChannels.map Prod.snd := by
    rw [ChannelHealthManifest.iterChannels, map_map]
    exact (zipIdx_map_fst 0 _).symm
  rw [hids, migrateIntersection_eq fun _ _ => request.manifest.mem_iterChannels.1] at hcop
  obtain ⟨hhdr, hlen, -, -⟩ := migrate_spec request.manifest.nodup_iterChannels hcop
  exact (created_fresh.of_eq hhdr hlen).updateHeartbeat _

end AetherEdge.Shm
