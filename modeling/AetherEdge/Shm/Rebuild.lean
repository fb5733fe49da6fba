import AetherEdge.Shm.CommandMirror
import AetherEdge.Shm.Manifest
import AetherEdge.Shm.Migration

/-!
# Rebuilding the point plane

Model of `ShmWriterHandle` (`libs/aether-shm-bridge/src/runtime.rs`): the writer and the manifest
of the point plane, which `rebuild` replaces by those of a new generation. The samples of the
addresses in both manifests are copied into the new file before it is renamed over the old one.
Everything happens under the exclusive leases, so that a rebuild is one step; samples and
commands are stored between rebuilds, and a writer may die in the middle of a `set`.

* `staged_of_stageGeneration`: what is in the new file;
* `rebuild_cases`: a rebuild changes nothing, or renames the new file over the old one;
* `rebuild_of_usable`: a rebuild that nothing stands in the way of succeeds;
* `rebuild_keeps_samples`: over every run, what a rebuild does to the samples.
-/

namespace AetherEdge.Shm

open Transition Dataplane Domain Volume

/-- Lines 23-26. -/
structure ShmRuntimeConfig where
  path : String
  maxSlots : UInt32

/-- `ShmWriterGeneration`, without the observer. -/
structure ShmWriterGeneration where
  writer : SlotWriter
  manifest : ChannelPointManifest

/-- `ShmWriterHandle`, with the files that it works on. -/
structure PointPlane where
  config : ShmRuntimeConfig
  current : Option ShmWriterGeneration
  volume : Volume

/-- `{address:?}`. -/
def debugAddress (address : PhysicalPointAddress) : String :=
  let kind := match address.kind with
    | .telemetry => "Telemetry"
    | .status => "Status"
    | .command => "Command"
    | .action => "Action"
  s!"PhysicalPointAddress \x7b channel_id: ChannelId({address.channelId}), kind: {kind}, " ++
    s!"point_id: PointId({address.pointId}) \x7d"

/-! ## Migration -/

/-- The sample that is copied for an address: none when the address is new or has not been
    written. -/
def sampleToMigrate (file : Segment) (previous : ShmWriterGeneration)
    (address : PhysicalPointAddress) : PortResult (Option SlotRead) :=
  match previous.manifest.slotFor address with
  | none => .ok none
  | some slot =>
    match file.readSlot previous.writer.slotCount slot with
    | none => .error ⟨.conflict,
        s!"physical point {debugAddress address} changed during live-state migration"⟩
    | some sample => .ok (if sample.value.isNan then none else some sample)

/-- `migrate_point_intersection` (lines 338-366). -/
def migratePointIntersection (file : Segment) (previous : ShmWriterGeneration) :
    List (ℕ × PhysicalPointAddress) → Segment → PortResult Segment
  | [], staging => .ok staging
  | (target, address) :: rest, staging => do
    let sample ← sampleToMigrate file previous address
    migratePointIntersection file previous rest (receive staging target sample)

theorem migratePointIntersection_eq (file : Segment) (previous : ShmWriterGeneration)
    (pairs : List (ℕ × PhysicalPointAddress)) (staging : Segment) :
    migratePointIntersection file previous pairs staging =
      migrate (sampleToMigrate file previous) pairs staging := by
  induction pairs generalizing staging with
  | nil => rfl
  | cons pair rest ih =>
    simp only [migratePointIntersection, migrate, ih]

/-! ## Publication -/

/-- The arguments of `rebuild`, with what `new_generation` reads and the calls that fail. -/
structure RebuildRequest where
  manifest : ChannelPointManifest
  publicationEpoch : UInt64
  wallNanos : UInt64
  sequence : UInt64
  faults : PublishFaults := {}

/-- The live state of the previous generation in a new file. -/
def migrateFrom (volume : Volume) (manifest : ChannelPointManifest) (staging : Segment) :
    Option ShmWriterGeneration → PortResult Segment
  | none => .ok staging
  | some previous => do
    let file := volume.inodes previous.writer.inode
    let staging ← migratePointIntersection file previous manifest.iterPhysicalPoints staging
    .ok (updateHeartbeat staging file.header.writerHeartbeat)

/-- The new file, complete before it is visible. -/
def stageGeneration (plane : PointPlane) (request : RebuildRequest) : PortResult Segment := do
  port mapDataplaneError (attempt (s!"acquire exclusive SHM authority lock " ++
    debugStr (plane.config.path ++ ".authority.lock")) request.faults.lock)
  port mapDataplaneError (attempt s!"create SHM file for {debugStr plane.config.path}" request.faults.create)
  let staging ← port mapDataplaneError (Segment.create request.manifest.slotCount request.manifest.layoutHash
    request.publicationEpoch (newGeneration request.wallNanos request.sequence))
  let staging ← migrateFrom plane.volume request.manifest staging plane.current
  port mapDataplaneError (attempt "flush SHM mmap" request.faults.flush)
  .ok staging

/-- `validate_generation` (`acquisition_writer.rs:80-105`) of the acquisition writer, which has just
    read the generation. -/
def validateGeneration (path : String) (volume : Volume) (writer : SlotWriter)
    (manifest : ChannelPointManifest) (fault : Option IoError) : PortResult Unit := do
  port mapDataplaneError (validateAuthoritativePath path volume writer fault)
  let header := (volume.inodes writer.inode).header
  if stable header.writerGeneration && header.layoutHash == manifest.layoutHash &&
      header.slotCount.toNat == manifest.slotCount then .ok ()
  else .error ⟨.conflict,
    s!"SHM generation mismatch: expected generation={header.writerGeneration} hash=0x" ++
    padZeros 16 (lowerHex manifest.layoutHash.toNat) ++ s!" slots={manifest.slotCount}, found " ++
    s!"generation={header.writerGeneration} hash=0x" ++
    padZeros 16 (lowerHex header.layoutHash.toNat) ++ s!" slots={header.slotCount}"⟩

/-- The generation of the file at the path. -/
def composeGeneration (path : String) (volume : Volume) (manifest : ChannelPointManifest)
    (faults : PublishFaults) : PortResult ShmWriterGeneration := do
  let writer ← port mapDataplaneError (openExisting path volume manifest.slotCount manifest.layoutHash faults.reopen)
  validateGeneration path volume writer manifest faults.confirm
  .ok ⟨writer, manifest⟩

/-- `publish_generation` (lines 270-336), without a snapshot. -/
def publishGeneration (plane : PointPlane) (request : RebuildRequest) :
    PortResult ShmWriterGeneration × Volume :=
  match stageGeneration plane request with
  | .error error => (.error error, plane.volume)
  | .ok staging =>
    match replaceCanonical plane.config.path plane.volume mapDataplaneError (plane.current.map (·.writer)) staging
        request.faults with
    | (.error error, volume) => (.error error, volume)
    | (.ok (), volume) =>
      (composeGeneration plane.config.path volume request.manifest request.faults, volume)

/-- `publication_epoch` (lines 101-103) of a generation. -/
def PointPlane.publicationEpoch (plane : PointPlane) (generation : ShmWriterGeneration) : UInt64 :=
  (plane.volume.inodes generation.writer.inode).header.publicationEpoch

/-- What `rebuild` (lines 213-241) checks first. -/
def checkRequest (plane : PointPlane) (request : RebuildRequest) : PortResult Unit := do
  validateTopologyPublicationEpoch request.publicationEpoch
  if plane.current.any (fun generation =>
      plane.publicationEpoch generation == request.publicationEpoch) then
    .error ⟨.invalidData,
      s!"point SHM publication epoch {request.publicationEpoch} was already used"⟩
  else if request.manifest.slotCount ≤ plane.config.maxSlots.toNat then .ok ()
  else .error ⟨.invalidData, s!"manifest slot count {request.manifest.slotCount} exceeds " ++
    s!"configured max_slots {plane.config.maxSlots}"⟩

/-- `rebuild` (lines 213-241). -/
def rebuild (plane : PointPlane) (request : RebuildRequest) : PortResult Unit × PointPlane :=
  match checkRequest plane request with
  | .error error => (.error error, plane)
  | .ok () =>
    match publishGeneration plane request with
    | (.error error, volume) => (.error error, { plane with volume := volume })
    | (.ok generation, volume) =>
      (.ok (), { plane with current := some generation, volume := volume })

/-! ## The outcomes of a rebuild -/

/-- Nothing, an error after the rename, or a new generation. -/
inductive Outcome (plane : PointPlane) (request : RebuildRequest) :
    PortResult Unit × PointPlane → Prop where
  | unchanged (error : PortError) : Outcome plane request (.error error, plane)
  | renamed (error : PortError) (swapped : Volume) (staging : Segment)
      (hstage : stageGeneration plane request = .ok staging)
      (hswapped : Invalidated plane.volume swapped) :
      Outcome plane request (.error error, { plane with volume := swapped.rename staging })
  | published (swapped : Volume) (staging : Segment)
      (hstage : stageGeneration plane request = .ok staging)
      (hswapped : Invalidated plane.volume swapped) :
      Outcome plane request (.ok (),
        { plane with
          current := some ⟨⟨plane.volume.next, request.manifest.slotCount⟩, request.manifest⟩
          volume := swapped.rename staging })

variable {generation : ShmWriterGeneration}

theorem composeGeneration_eq_ok {path : String} {volume : Volume} {manifest : ChannelPointManifest}
    {faults : PublishFaults} (h : composeGeneration path volume manifest faults = .ok generation) :
    ∃ inode, volume.canonical = some inode ∧
      (volume.inodes inode).header.layoutHash = manifest.layoutHash ∧
      generation = ⟨⟨inode, manifest.slotCount⟩, manifest⟩ := by
  unfold composeGeneration at h
  obtain ⟨writer, hwtr, h⟩ := bind_eq_ok.1 h
  obtain ⟨-, -, h⟩ := bind_eq_ok.1 h
  obtain ⟨-, inode, hcan, -, -, hhash, -, rfl⟩ :=
    openExisting_eq_ok_iff.1 (port_eq_ok_iff.1 hwtr)
  exact ⟨inode, hcan, hhash, (Except.ok.inj h).symm⟩

theorem rebuild_cases (plane : PointPlane) (request : RebuildRequest) :
    Outcome plane request (rebuild plane request) := by
  unfold rebuild
  rcases hcheck : checkRequest plane request with error | _
  · exact .unchanged error
  dsimp only
  unfold publishGeneration
  rcases hstg : stageGeneration plane request with error | staging
  · exact .unchanged error
  dsimp only
  rcases replaceCanonical_cases mapDataplaneError plane.config.path plane.volume
    (plane.current.map (·.writer)) staging request.faults with
    ⟨error, hreplace⟩ | ⟨swapped, hswap, -, hreplace⟩
  · rw [hreplace]
    exact .unchanged error
  · rw [hreplace]
    dsimp only
    cases hcomp : composeGeneration plane.config.path (swapped.rename staging)
      request.manifest request.faults with
    | error error => exact .renamed error swapped staging hstg hswap
    | ok generation =>
      obtain ⟨inode, hcan, -, rfl⟩ := composeGeneration_eq_ok hcomp
      obtain rfl : inode = plane.volume.next := by
        rw [← hswap.next]
        exact (Option.some.inj hcan).symm
      exact .published swapped staging hstg hswap

/-! ## The new file -/

/-- The file that a publication renames into place. -/
structure Staged (plane : PointPlane) (request : RebuildRequest) (staging : Segment) : Prop where
  wellFormed : staging.WellFormed
  slotCount : staging.header.slotCount.toNat = request.manifest.slotCount
  layoutHash : staging.header.layoutHash = request.manifest.layoutHash
  generation : stable staging.header.writerGeneration = true
  other : ∀ slot, slot ∉ request.manifest.iterPhysicalPoints.map Prod.fst →
    staging.slots slot = PointSlot.unwritten ∨ staging.slots slot = PointSlot.zeroed
  added : plane.current = none → ∀ address slot, request.manifest.slotFor address = some slot →
    staging.slots slot = PointSlot.unwritten
  migrated : ∀ previous, plane.current = some previous →
    ∀ address slot, request.manifest.slotFor address = some slot → ∃ sample,
      sampleToMigrate (plane.volume.inodes previous.writer.inode) previous address = .ok sample ∧
      staging.slots slot = sample.elim PointSlot.unwritten PointSlot.unwritten.set

variable {address : PhysicalPointAddress} {slot : ℕ}

theorem fresh_slots (manifest : ChannelPointManifest) (layoutHash epoch generation : UInt64)
    (h : manifest.slotFor address = some slot) :
    (Segment.fresh manifest.slotCount layoutHash epoch generation).slots slot =
      PointSlot.unwritten :=
  if_pos (manifest.lt_slotCount_of_slotFor h)

theorem fresh_slots_cases (slotCount : ℕ) (layoutHash epoch generation : UInt64) (slot : ℕ) :
    (Segment.fresh slotCount layoutHash epoch generation).slots slot = PointSlot.unwritten ∨
      (Segment.fresh slotCount layoutHash epoch generation).slots slot = PointSlot.zeroed := by
  by_cases h : slot < slotCount
  · exact .inl (if_pos h)
  · exact .inr (if_neg h)

variable {plane : PointPlane} {request : RebuildRequest} {staging : Segment}

theorem created_of_stageGeneration (h : stageGeneration plane request = .ok staging) :
    Created request.manifest.slotCount request.manifest.layoutHash request.publicationEpoch
      (newGeneration request.wallNanos request.sequence) staging ∧
    request.publicationEpoch ≠ 0 ∧ request.manifest.slotCount < 2 ^ 32 := by
  unfold stageGeneration at h
  simp only [bind_eq_ok, exists_unit, port_eq_ok_iff, Segment.create_eq_ok_iff,
    Except.ok.injEq] at h
  obtain ⟨-, -, file, ⟨hep, hcnt, rfl⟩, migrated, hmig, -, rfl⟩ := h
  refine ⟨?_, hep, hcnt⟩
  rcases hcur : plane.current with _ | previous
  · rw [hcur] at hmig
    cases hmig
    exact created_fresh
  rw [hcur] at hmig
  obtain ⟨copied, hcop, hmig⟩ := bind_eq_ok.1 hmig
  cases hmig
  rw [migratePointIntersection_eq] at hcop
  obtain ⟨hhdr, hlen, -, -⟩ :=
    migrate_spec request.manifest.nodup_iterPhysicalPoints hcop
  exact (created_fresh.of_eq hhdr hlen).updateHeartbeat _

theorem staged_of_stageGeneration (h : stageGeneration plane request = .ok staging) :
    Staged plane request staging := by
  obtain ⟨hcre, hep, hcnt⟩ := created_of_stageGeneration h
  have hstab : stable staging.header.writerGeneration = true := by
    rw [hcre.writerGeneration]
    exact stable_newGeneration _ _
  unfold stageGeneration at h
  simp only [bind_eq_ok, exists_unit, port_eq_ok_iff, Segment.create_eq_ok_iff,
    Except.ok.injEq] at h
  obtain ⟨-, -, file, ⟨-, -, rfl⟩, migrated, hmig, -, rfl⟩ := h
  cases hcur : plane.current with
  | none =>
    rw [hcur] at hmig
    cases hmig
    refine ⟨hcre.wellFormed hcnt hep, hcre.slotCount hcnt, hcre.layoutHash,
      hstab, ?_, ?_, ?_⟩
    · exact fun slot _ => fresh_slots_cases _ _ _ _ slot
    · exact fun _ address slot hslot => fresh_slots _ _ _ _ hslot
    · intro previous hprev
      rw [hcur] at hprev
      cases hprev
  | some previous =>
    rw [hcur] at hmig
    obtain ⟨copied, hcop, hmig⟩ := bind_eq_ok.1 hmig
    cases hmig
    rw [migratePointIntersection_eq] at hcop
    obtain ⟨-, -, hoth, hslots⟩ := migrate_spec request.manifest.nodup_iterPhysicalPoints hcop
    refine ⟨hcre.wellFormed hcnt hep, hcre.slotCount hcnt, hcre.layoutHash,
      hstab, ?_, ?_, ?_⟩
    · intro slot hslot
      show copied.slots slot = _ ∨ copied.slots slot = _
      rw [hoth slot hslot]
      exact fresh_slots_cases _ _ _ _ slot
    · intro hnone
      rw [hcur] at hnone
      cases hnone
    · intro previous' hprev address slot hslot
      obtain rfl := Option.some.inj (hcur.symm.trans hprev)
      obtain ⟨sample, hsmp, hreceived⟩ :=
        hslots slot address (request.manifest.mem_iterPhysicalPoints.2 hslot)
      refine ⟨sample, hsmp, ?_⟩
      show copied.slots slot = _
      rw [hreceived, receive_slots, fresh_slots _ _ _ _ hslot]

/-! ## Samples -/

/-- The sample of an address. -/
def PointPlane.sampleAt (plane : PointPlane) (address : PhysicalPointAddress) : Option SlotRead := do
  let generation ← plane.current
  let slot ← generation.manifest.slotFor address
  (plane.volume.inodes generation.writer.inode).readSlot generation.writer.slotCount slot

/-- The plane has a slot for it. -/
def PointPlane.Declares (plane : PointPlane) (address : PhysicalPointAddress) : Prop :=
  ∃ generation slot, plane.current = some generation ∧
    generation.manifest.slotFor address = some slot

/-- A slot has a value that is a number, or has not been written. -/
def Plain (slot : PointSlot) : Prop :=
  slot.data.value.isNan = true → slot.data = PointSlot.unwritten.data

/-- What holds between the steps. -/
structure PointPlane.Good (plane : PointPlane) : Prop where
  inode : ∀ generation, plane.current = some generation →
    generation.writer.inode < plane.volume.next
  slotCount : ∀ generation, plane.current = some generation →
    generation.writer.slotCount = generation.manifest.slotCount
  plain : ∀ generation, plane.current = some generation →
    ∀ slot, Plain ((plane.volume.inodes generation.writer.inode).slots slot)

theorem plain_unwritten : Plain PointSlot.unwritten := fun _ => rfl

theorem plain_zeroed : Plain PointSlot.zeroed := fun h => by cases h

theorem readSlot_of_slotFor (h : plane.Good) (hcur : plane.current = some generation)
    (hslot : generation.manifest.slotFor address = some slot) (file : Segment) :
    file.readSlot generation.writer.slotCount slot = (file.slots slot).tryLoadConsistent := by
  refine if_neg (Nat.not_le.2 ?_)
  rw [h.slotCount generation hcur]
  exact generation.manifest.lt_slotCount_of_slotFor hslot

theorem sampleAt_eq (h : plane.Good) (hcur : plane.current = some generation)
    (hslot : generation.manifest.slotFor address = some slot) :
    plane.sampleAt address =
      ((plane.volume.inodes generation.writer.inode).slots slot).tryLoadConsistent := by
  simp only [PointPlane.sampleAt, hcur, Option.bind_eq_bind, Option.bind_some, hslot]
  exact readSlot_of_slotFor h hcur hslot _

/-- What the migration copies is not the mark of an unwritten slot. -/
theorem not_isNan_of_sampleToMigrate {file : Segment} {previous : ShmWriterGeneration}
    {sample : SlotRead} (h : sampleToMigrate file previous address = .ok (some sample)) :
    sample.value.isNan = false := by
  unfold sampleToMigrate at h
  split at h
  · cases h
  split at h
  · cases h
  next found _ =>
  by_cases hnan : found.value.isNan = true
  · rw [if_pos hnan] at h
    cases h
  · rw [if_neg hnan] at h
    obtain rfl := Option.some.inj (Except.ok.inj h)
    exact Bool.eq_false_of_not_eq_true hnan

theorem plain_elim_set {sample : Option SlotRead}
    (h : ∀ record, sample = some record → record.value.isNan = false) :
    Plain (sample.elim PointSlot.unwritten PointSlot.unwritten.set) := by
  rcases sample with _ | record
  · exact plain_unwritten
  intro hnan
  have hnan' : record.value.isNan = true := hnan
  rw [h record rfl] at hnan'
  cases hnan'

theorem Staged.plain (h : Staged plane request staging) (slot : ℕ) :
    Plain (staging.slots slot) := by
  by_cases hslot : slot ∈ request.manifest.iterPhysicalPoints.map Prod.fst
  · obtain ⟨⟨slot', address⟩, hmem, rfl⟩ := List.mem_map.1 hslot
    have hslotFor := request.manifest.mem_iterPhysicalPoints.1 hmem
    rcases hcur : plane.current with _ | previous
    · rw [h.added hcur address slot' hslotFor]
      exact plain_unwritten
    obtain ⟨sample, hsmp, heq⟩ := h.migrated previous hcur address slot' hslotFor
    rw [heq]
    refine plain_elim_set ?_
    rintro record rfl
    exact not_isNan_of_sampleToMigrate hsmp
  · rcases h.other slot hslot with heq | heq
    · rw [heq]; exact plain_unwritten
    · rw [heq]; exact plain_zeroed

/-- The sample of an address in the new file is the one it had, or none. -/
theorem Staged.tryLoadConsistent (hgood : plane.Good) (h : Staged plane request staging)
    (hslot : request.manifest.slotFor address = some slot) :
    (plane.Declares address →
      (staging.slots slot).tryLoadConsistent = plane.sampleAt address) ∧
    (¬plane.Declares address →
      (staging.slots slot).tryLoadConsistent = some PointSlot.unwritten.data) := by
  cases hcur : plane.current with
  | none =>
    rw [h.added hcur address slot hslot]
    refine ⟨?_, fun _ => PointSlot.tryLoadConsistent_unwritten⟩
    rintro ⟨generation, _, hgen, -⟩
    rw [hcur] at hgen
    cases hgen
  | some previous =>
    obtain ⟨sample, hsmp, heq⟩ := h.migrated previous hcur address slot hslot
    rw [heq]
    cases hprev : previous.manifest.slotFor address with
    | none =>
      have hnone : sample = none := by
        simp only [sampleToMigrate, hprev, Except.ok.injEq] at hsmp
        exact hsmp.symm
      subst hnone
      refine ⟨?_, fun _ => PointSlot.tryLoadConsistent_unwritten⟩
      rintro ⟨generation, slot', hgen, hslot'⟩
      obtain rfl := Option.some.inj (hcur.symm.trans hgen)
      rw [hprev] at hslot'
      cases hslot'
    | some old =>
      refine ⟨fun _ => ?_, fun hnot => absurd ⟨previous, old, hcur, hprev⟩ hnot⟩
      rw [sampleAt_eq hgood hcur hprev]
      simp only [sampleToMigrate, hprev] at hsmp
      rw [readSlot_of_slotFor hgood hcur hprev] at hsmp
      rcases hload : ((plane.volume.inodes previous.writer.inode).slots old).tryLoadConsistent with _ | found
      · rw [hload] at hsmp
        cases hsmp
      rw [hload] at hsmp
      by_cases hnan : found.value.isNan = true
      · -- the slot has not been written
        simp only [if_pos hnan, Except.ok.injEq] at hsmp
        subst hsmp
        have hdata := PointSlot.eq_data_of_tryLoadConsistent hload
        rw [hdata] at hnan ⊢
        rw [hgood.plain previous hcur old hnan]
        exact PointSlot.tryLoadConsistent_unwritten
      · simp only [if_neg hnan, Except.ok.injEq] at hsmp
        subst hsmp
        exact PointSlot.tryLoadConsistent_set_unwritten found

/-! ## A rebuild that goes through -/

/-- Nothing stands in the way of a rebuild. -/
structure Usable (plane : PointPlane) (request : RebuildRequest) : Prop where
  epoch : request.publicationEpoch ≠ 0 ∧ request.publicationEpoch ≠ 0xffffffffffffffff
  capacity : request.manifest.slotCount ≤ plane.config.maxSlots.toNat
  faults : request.faults = {}
  /-- the generation in use is the stable file at the path, of another epoch, and its samples
      can be read -/
  inUse : ∀ generation, plane.current = some generation →
    plane.publicationEpoch generation ≠ request.publicationEpoch ∧
    plane.volume.canonical = some generation.writer.inode ∧
    stable (plane.volume.inodes generation.writer.inode).header.writerGeneration = true ∧
    ∀ address, address ∈ request.manifest.pointsByAddress → plane.Declares address →
      plane.sampleAt address ≠ none
  /-- without one, the file at the path is a segment -/
  found : plane.current = none → ∀ inode, plane.volume.canonical = some inode →
    (plane.volume.inodes inode).WellFormed

theorem checkRequest_of_usable (h : Usable plane request) :
    checkRequest plane request = .ok () := by
  have hep : plane.current.any (fun generation =>
      plane.publicationEpoch generation == request.publicationEpoch) = false := by
    cases hcur : plane.current with
    | none => rfl
    | some generation => simpa using (h.inUse generation hcur).1
  unfold checkRequest
  rw [validateTopologyPublicationEpoch_eq_ok_iff.2 h.epoch, ok_bind, hep,
    if_neg Bool.false_ne_true, if_pos h.capacity]

theorem migrateFrom_of_usable (hgood : plane.Good) (h : Usable plane request) (staging : Segment) :
    ∃ result, migrateFrom plane.volume request.manifest staging plane.current = .ok result := by
  rcases hcur : plane.current with _ | previous
  · exact ⟨staging, rfl⟩
  have hread : ∀ slot address, (slot, address) ∈ request.manifest.iterPhysicalPoints →
      ∃ sample, sampleToMigrate (plane.volume.inodes previous.writer.inode) previous address =
        .ok sample := by
    intro slot address hmem
    have hslot := request.manifest.mem_iterPhysicalPoints.1 hmem
    rcases hprev : previous.manifest.slotFor address with _ | old
    · exact ⟨none, by simp only [sampleToMigrate, hprev]⟩
    have hsmp := (h.inUse previous hcur).2.2.2 address
      (request.manifest.exists_slotFor_iff.1 ⟨slot, hslot⟩) ⟨previous, old, hcur, hprev⟩
    rw [sampleAt_eq hgood hcur hprev] at hsmp
    obtain ⟨found, hfnd⟩ := Option.ne_none_iff_exists'.1 hsmp
    refine ⟨if found.value.isNan then none else some found, ?_⟩
    simp only [sampleToMigrate, hprev]
    rw [readSlot_of_slotFor hgood hcur hprev, hfnd]
  obtain ⟨copied, hcop⟩ := migrate_of_readable hread staging
  rw [← migratePointIntersection_eq] at hcop
  exact ⟨_, bind_eq_ok.2 ⟨copied, hcop, rfl⟩⟩

theorem stageGeneration_of_usable (hgood : plane.Good) (h : Usable plane request) :
    ∃ staging, stageGeneration plane request = .ok staging := by
  have hcnt : request.manifest.slotCount < 2 ^ 32 :=
    Nat.lt_of_le_of_lt h.capacity plane.config.maxSlots.toNat_lt
  obtain ⟨staging, hstg⟩ := migrateFrom_of_usable hgood h
    (Segment.fresh request.manifest.slotCount request.manifest.layoutHash request.publicationEpoch
      (newGeneration request.wallNanos request.sequence))
  refine ⟨staging, ?_⟩
  unfold stageGeneration
  simp only [h.faults, attempt_none, bind_eq_ok, exists_unit, port_eq_ok_iff,
    Segment.create_eq_ok_iff]
  exact ⟨trivial, trivial, _, ⟨h.epoch.1, hcnt, rfl⟩, staging, hstg, trivial, rfl⟩

theorem invalidatePrevious_of_usable (h : Usable plane request) :
    ∃ result, invalidatePrevious plane.config.path plane.volume mapDataplaneError
      (plane.current.map (·.writer)) request.faults = .ok result := by
  rw [h.faults]
  cases hcur : plane.current with
  | some generation =>
    refine invalidatePrevious_of_found rfl rfl ?_
    intro writer hwtr
    cases hwtr
    obtain ⟨-, hcan, hstab, -⟩ := h.inUse generation hcur
    exact ⟨hcan, hstab⟩
  | none =>
    obtain ⟨found, hfnd, hstab⟩ := openCanonicalForReplacement_of_wellFormed (h.found hcur)
    exact invalidatePrevious_of_found (port_eq_ok_iff.2 hfnd) rfl hstab

/-- The new file passes the checks that follow its rename. -/
theorem composeGeneration_of_staged (h : Staged plane request staging)
    (hfaults : request.faults = {}) (volume : Volume) :
    composeGeneration plane.config.path (volume.rename staging) request.manifest request.faults =
      .ok ⟨⟨volume.next, request.manifest.slotCount⟩, request.manifest⟩ := by
  rw [hfaults]
  have hfile : (volume.rename staging).inodes volume.next = staging := rename_new staging
  have hopen : openExisting plane.config.path (volume.rename staging) request.manifest.slotCount
      request.manifest.layoutHash none = .ok ⟨volume.next, request.manifest.slotCount⟩ := by
    refine openExisting_eq_ok_iff.2 ⟨rfl, volume.next, rfl, ?_⟩
    rw [hfile]
    exact ⟨h.wellFormed, h.slotCount, h.layoutHash, h.generation, rfl⟩
  refine bind_eq_ok.2 ⟨_, port_eq_ok_iff.2 hopen, bind_eq_ok.2 ⟨(), ?_, rfl⟩⟩
  refine bind_eq_ok.2 ⟨(), port_eq_ok_iff.2 (validateAuthoritativePath_eq_ok_iff.2 ⟨rfl, rfl⟩), ?_⟩
  simp only [hfile, h.generation, h.layoutHash, h.slotCount, beq_self_eq_true, Bool.and_self,
    if_true]

theorem rebuild_of_usable (hgood : plane.Good) (h : Usable plane request) :
    ∃ after, rebuild plane request = (.ok (), after) := by
  obtain ⟨staging, hstg⟩ := stageGeneration_of_usable hgood h
  obtain ⟨⟨invalidation, swapped⟩, hinval⟩ := invalidatePrevious_of_usable h
  have hrename : request.faults.rename = none := by rw [h.faults]
  have hreplace : replaceCanonical plane.config.path plane.volume mapDataplaneError (plane.current.map (·.writer))
      staging request.faults = (.ok (), swapped.rename staging) := by
    simp only [replaceCanonical, hinval, hrename]
  have hcomp :=
    composeGeneration_of_staged (staged_of_stageGeneration hstg) h.faults swapped
  unfold rebuild publishGeneration
  simp only [checkRequest_of_usable h, hstg, hreplace, hcomp]
  exact ⟨_, rfl⟩

/-! ## Runs -/

/-- What is stored between rebuilds. -/
inductive Stored where
  | acquired (sample : AcquiredPointSample)
  | mirrored (command : PhysicalDeviceCommand)

/-- The record it stores. -/
def Stored.record : Stored → SlotRead
  | .acquired sample =>
    ⟨sample.value, sample.raw, sample.timestamp, encodePointQuality sample.quality⟩
  | .mirrored command => mirrorRecord command

theorem Stored.value_isNan (stored : Stored) : stored.record.value.isNan = false := by
  have hfin : stored.record.value.isFinite = true := by
    cases stored with
    | acquired sample => exact sample.finite_value
    | mirrored command => exact command.finite
  rw [F64.isNan, hfin]
  rfl

/-- A slot whose writer has died after some accesses of a `set`: the increment, then the stores. -/
def interruptedSet (slot : PointSlot) (record : SlotRead) : ℕ → PointSlot
  | 0 => slot
  | stores + 1 =>
    ⟨pointSlot.bump slot.seq, ((pointSlot.stores record).take stores).foldl FieldStore.apply slot.data⟩

/-- The file after it. -/
def interrupt (file : Segment) (slot : ℕ) (record : SlotRead) (accesses : ℕ) : Segment :=
  { file with
    slots := Function.update file.slots slot (interruptedSet (file.slots slot) record accesses) }

/-- The steps of a point plane. -/
inductive PlaneOp where
  | store (inode slot : ℕ) (stored : Stored)
  | interrupt (inode slot : ℕ) (stored : Stored) (accesses : ℕ)
  | heartbeat (inode : ℕ) (timestampMs : UInt64)
  | rebuild (request : RebuildRequest)

/-- The transition function. -/
def planeStep (plane : PointPlane) : PlaneOp → PointPlane
  | .store inode slot stored =>
    { plane with volume := plane.volume.modify inode (·.setDirect slot stored.record) }
  | .interrupt inode slot stored accesses =>
    { plane with volume := plane.volume.modify inode (interrupt · slot stored.record accesses) }
  | .heartbeat inode timestampMs =>
    { plane with volume := plane.volume.modify inode (updateHeartbeat · timestampMs) }
  | .rebuild request => (rebuild plane request).2

/-- A handle without a generation, over any files. -/
def PointPlane.empty (config : ShmRuntimeConfig) (volume : Volume) : PointPlane :=
  ⟨config, none, volume⟩

theorem plain_set (slot : PointSlot) (stored : Stored) : Plain (slot.set stored.record) := by
  intro hnan
  have hnan' : stored.record.value.isNan = true := hnan
  rw [stored.value_isNan] at hnan'
  cases hnan'

/-- The value is the first field that a `set` stores. -/
theorem plain_interruptedSet {slot : PointSlot} (h : Plain slot) (stored : Stored)
    (accesses : ℕ) : Plain (interruptedSet slot stored.record accesses) := by
  match accesses with
  | 0 => exact h
  | 1 => exact h
  | stores + 2 =>
    intro hnan
    have hvl : (interruptedSet slot stored.record (stores + 2)).data.value =
        stored.record.value := by
      match stores with
      | 0 => rfl
      | 1 => rfl
      | 2 => rfl
      | _ + 3 => simp [interruptedSet, pointSlot, FieldStore.apply]
    rw [hvl, stored.value_isNan] at hnan
    cases hnan

theorem PointPlane.Good.modify (h : plane.Good) (inode : ℕ) {change : Segment → Segment}
    (hchange : ∀ file : Segment, (∀ slot, Plain (file.slots slot)) → ∀ slot, Plain ((change
      file).slots slot)) :
    PointPlane.Good { plane with volume := plane.volume.modify inode change } where
  inode := h.inode
  slotCount := h.slotCount
  plain generation hcur := by
    have hplain := h.plain generation hcur
    by_cases hne : generation.writer.inode = inode
    · subst hne
      intro slot
      rw [modify_self]
      exact hchange _ hplain slot
    · intro slot
      rw [modify_of_ne hne]
      exact hplain slot

theorem Volume.Invalidated.slots {volume swapped : Volume} (h : Invalidated volume swapped) (inode : ℕ) :
    (swapped.inodes inode).slots = (volume.inodes inode).slots := by
  rcases h.file inode with heq | ⟨-, heq⟩
  · rw [heq]
  · rw [heq]

theorem PointPlane.Good.rebuild (h : plane.Good) (request : RebuildRequest) :
    (rebuild plane request).2.Good := by
  have hcs := rebuild_cases plane request
  generalize Shm.rebuild plane request = outcome at hcs
  cases hcs with
  | unchanged => exact h
  | renamed error swapped staging hstg hswap =>
    -- the handle goes on with the file it had
    refine ⟨fun generation hcur => ?_, h.slotCount, fun generation hcur slot => ?_⟩
    · show generation.writer.inode < swapped.next + 1
      rw [hswap.next]
      exact Nat.lt_succ_of_lt (h.inode generation hcur)
    · have hne : generation.writer.inode ≠ swapped.next := by
        rw [hswap.next]
        exact Nat.ne_of_lt (h.inode generation hcur)
      show Plain (((swapped.rename staging).inodes generation.writer.inode).slots slot)
      rw [rename_of_ne hne, hswap.slots]
      exact h.plain generation hcur slot
  | published swapped staging hstg hswap =>
    have hnext : swapped.next = plane.volume.next := hswap.next
    refine ⟨?_, ?_, ?_⟩
    · intro generation hcur
      cases hcur
      show plane.volume.next < swapped.next + 1
      omega
    · intro generation hcur
      cases hcur
      rfl
    · intro generation hcur slot
      cases hcur
      show Plain (((swapped.rename staging).inodes plane.volume.next).slots slot)
      rw [← hnext, rename_new]
      exact (staged_of_stageGeneration hstg).plain slot

theorem PointPlane.Good.step (h : plane.Good) (op : PlaneOp) : (planeStep plane op).Good := by
  cases op with
  | store inode slot stored =>
    refine h.modify inode fun file hplain slot' => ?_
    show Plain (Function.update file.slots slot _ slot')
    by_cases hne : slot' = slot
    · subst hne
      rw [Function.update_self]
      exact plain_set _ stored
    · rw [Function.update_of_ne hne]
      exact hplain slot'
  | interrupt inode slot stored accesses =>
    refine h.modify inode fun file hplain slot' => ?_
    show Plain (Function.update file.slots slot _ slot')
    by_cases hne : slot' = slot
    · subst hne
      rw [Function.update_self]
      exact plain_interruptedSet (hplain slot') stored accesses
    · rw [Function.update_of_ne hne]
      exact hplain slot'
  | heartbeat inode timestampMs => exact h.modify inode fun file hplain => hplain
  | rebuild request => exact h.rebuild request

theorem good_empty (config : ShmRuntimeConfig) (volume : Volume) :
    (PointPlane.empty config volume).Good where
  inode _ h := by cases h
  slotCount _ h := by cases h
  plain _ h := by cases h

theorem good_run (config : ShmRuntimeConfig) (volume : Volume) (ops : List PlaneOp) :
    EveryState planeStep PointPlane.Good (.empty config volume) ops :=
  everyState_of_step (fun _ op h => h.step op) (good_empty config volume) ops

/-- The value of a slot is no number only while nothing has been written into it. -/
theorem plain_throughout (config : ShmRuntimeConfig) (volume : Volume) (ops : List PlaneOp) :
    EveryState planeStep (fun plane => ∀ generation, plane.current = some generation →
      ∀ slot, Plain ((plane.volume.inodes generation.writer.inode).slots slot))
      (.empty config volume) ops :=
  (good_run config volume ops).imp fun _ h => h.plain

/-- A rebuild that succeeds leaves every address that was declared before with its sample and
    every other one unwritten, in the file at the path. One that fails before the rename leaves
    everything as it was, and a later rebuild is possible exactly as before. -/
theorem rebuild_keeps_samples (config : ShmRuntimeConfig) (volume : Volume) (ops : List PlaneOp) :
    EveryStep planeStep
      (fun plane op => ∀ request, op = .rebuild request →
        (∀ after, rebuild plane request = (.ok (), after) →
          (∃ generation, after.current = some generation ∧
            generation.manifest = request.manifest ∧
            after.volume.canonical = some generation.writer.inode) ∧
          ∀ address ∈ request.manifest.pointsByAddress,
            (plane.Declares address → after.sampleAt address = plane.sampleAt address) ∧
            (¬plane.Declares address → after.sampleAt address = some PointSlot.unwritten.data)) ∧
        ∀ error after, rebuild plane request = (.error error, after) →
          after.volume.canonical = plane.volume.canonical →
          after = plane ∧
          ∀ request', Usable plane request' → ∃ later, rebuild after request' = (.ok (), later))
      (.empty config volume) ops := by
  refine (good_run config volume ops).everyStep fun plane op hgood request _ => ⟨?_, ?_⟩
  · intro after hrebuild
    have hafter : after.Good := by
      have := hgood.rebuild request
      rwa [hrebuild] at this
    have hcases := rebuild_cases plane request
    rw [hrebuild] at hcases
    cases hcases with
    | published swapped staging hstage hswapped =>
      refine ⟨⟨_, rfl, rfl, ?_⟩, fun address hmem => ?_⟩
      · show some swapped.next = some plane.volume.next
        rw [hswapped.next]
      · obtain ⟨slot, hslot⟩ := request.manifest.exists_slotFor_iff.2 hmem
        have hfile : (swapped.rename staging).inodes plane.volume.next = staging := by
          rw [← hswapped.next, rename_new]
        rw [sampleAt_eq hafter rfl hslot]
        show (_ → PointSlot.tryLoadConsistent
          (((swapped.rename staging).inodes plane.volume.next).slots slot) = _) ∧
          (_ → PointSlot.tryLoadConsistent
            (((swapped.rename staging).inodes plane.volume.next).slots slot) = _)
        rw [hfile]
        exact (staged_of_stageGeneration hstage).tryLoadConsistent hgood hslot
  · intro error after hrebuild hcanonical
    have hcases := rebuild_cases plane request
    rw [hrebuild] at hcases
    cases hcases with
    | unchanged => exact ⟨rfl, fun request' => rebuild_of_usable hgood⟩
    | renamed error swapped staging hstage hswapped =>
      -- the rename has put another file at the path
      have hnext : some swapped.next = plane.volume.canonical := hcanonical
      rw [hswapped.next] at hnext
      exact absurd hnext.symm canonical_ne_next

end AetherEdge.Shm
