import AetherEdge.Common.Binary
import AetherEdge.Shm.Volume

/-!
# The witness of a topology publication

Model of `libs/aether-shm-bridge/src/topology_commit.rs`. A publication replaces the point plane
and the health plane under one epoch and then renames a witness into place that names the epoch
and the identity of both files. The witness is a file of 80 bytes.

* `decode_encode`: a witness reads back as it was written;
* `freshEpoch_eq_ok`: a new epoch is above those of the files that are there;
* `commit_cases`, `commitOfPlanes_eq_ok`: a commit changes nothing, or puts the witness of the two
  files in place;
* `validateTopologyPublicationLocked_eq_ok`: what is accepted matches the witness.
-/

namespace AetherEdge.Shm

open Dataplane Volume

/-- `transition_error` (lines 509-511). -/
def transitionError (message : String) : PortError := ⟨.conflict, message⟩

/-- `unavailable_error` (lines 513-515). -/
def unavailableError (message : String) : PortError := ⟨.unavailable, message⟩

/-- Lines 35-43. -/
structure TopologyPublicationCommit where
  publicationEpoch : UInt64
  pointLayoutHash : UInt64
  pointSlotCount : UInt64
  pointWriterGeneration : UInt64
  healthLayoutHash : UInt64
  healthSlotCount : UInt64
  healthWriterGeneration : UInt64
  deriving DecidableEq, Repr

variable {publicationEpoch : UInt64}

namespace TopologyPublicationCommit

/-! ## The bytes -/

/-- Line 17. -/
def commitMagic : Bytes := strBytes "AETHTP01"

/-- Line 18. -/
def commitVersion : ℕ := 1

/-- Line 19. -/
def commitBytes : ℕ := 80

/-- Line 20. -/
def checksumOffset : ℕ := 72

/-- The bytes in front of the checksum. -/
def payload (commit : TopologyPublicationCommit) : Bytes :=
  commitMagic ++ (leBytes 4 commitVersion ++ (leBytes 4 0 ++
    (leBytes 8 commit.publicationEpoch.toNat ++ (leBytes 8 commit.pointLayoutHash.toNat ++
    (leBytes 8 commit.pointSlotCount.toNat ++ (leBytes 8 commit.pointWriterGeneration.toNat ++
    (leBytes 8 commit.healthLayoutHash.toNat ++ (leBytes 8 commit.healthSlotCount.toNat ++
    leBytes 8 commit.healthWriterGeneration.toNat))))))))

/-- `encode` (lines 114-128). -/
def encode (commit : TopologyPublicationCommit) : Bytes :=
  commit.payload ++ (leBytes 4 (crc32 commit.payload).toNat ++ leBytes 4 0)

/-- `read_u32` (lines 471-476). -/
def readU32 (bytes : Bytes) (offset : ℕ) : ℕ := ofLeBytes (bytesAt bytes offset 4)

/-- `read_u64` (lines 478-483). -/
def readU64 (bytes : Bytes) (offset : ℕ) : UInt64 := UInt64.ofNat (ofLeBytes (bytesAt bytes offset 8))

/-- `decode` (lines 130-166). -/
def decode (bytes : Bytes) : PortResult TopologyPublicationCommit :=
  if bytes.length ≠ commitBytes then
    .error (transitionError
      s!"SHM topology commit has invalid length {bytes.length}; expected {commitBytes}")
  else if bytesAt bytes 0 8 ≠ commitMagic then
    .error (transitionError "SHM topology commit magic is invalid")
  else if readU32 bytes 8 ≠ commitVersion then
    .error (transitionError s!"SHM topology commit version {readU32 bytes 8} is unsupported")
  else if readU32 bytes checksumOffset ≠ (crc32 (bytesAt bytes 0 checksumOffset)).toNat then
    .error (transitionError "SHM topology commit checksum is invalid")
  else
    let commit : TopologyPublicationCommit :=
      { publicationEpoch := readU64 bytes 16
        pointLayoutHash := readU64 bytes 24
        pointSlotCount := readU64 bytes 32
        pointWriterGeneration := readU64 bytes 40
        healthLayoutHash := readU64 bytes 48
        healthSlotCount := readU64 bytes 56
        healthWriterGeneration := readU64 bytes 64 }
    if commit.publicationEpoch = 0 ∨ commit.publicationEpoch = 0xffffffffffffffff then
      .error (transitionError "SHM topology commit cannot authorize a reserved publication epoch")
    else .ok commit

theorem length_commitMagic : commitMagic.length = 8 := by decide +kernel

variable (commit : TopologyPublicationCommit)

theorem length_payload : commit.payload.length = 72 := by
  simp [payload, length_commitMagic]

theorem length_encode : commit.encode.length = commitBytes := by
  simp [encode, length_payload, commitBytes]

theorem bytesAt_encode {offset width : ℕ} (h : offset + width ≤ 72) :
    bytesAt commit.encode offset width = bytesAt commit.payload offset width :=
  bytesAt_append_left (by rw [length_payload]; exact h) _

theorem ofNat_ofLeBytes_word (word : UInt64) :
    UInt64.ofNat (ofLeBytes (leBytes 8 word.toNat)) = word := by
  rw [ofLeBytes_leBytes (lt_of_lt_of_eq word.toNat_lt (by norm_num)), UInt64.ofNat_toNat]

theorem bytesAt_leBytes (width n : ℕ) : bytesAt (leBytes width n) 0 width = leBytes width n := by
  have := bytesAt_length (leBytes width n)
  rwa [length_leBytes] at this

/-- Every field is read from where it was written. -/
theorem readU64_encode :
    readU64 commit.encode 16 = commit.publicationEpoch ∧
    readU64 commit.encode 24 = commit.pointLayoutHash ∧
    readU64 commit.encode 32 = commit.pointSlotCount ∧
    readU64 commit.encode 40 = commit.pointWriterGeneration ∧
    readU64 commit.encode 48 = commit.healthLayoutHash ∧
    readU64 commit.encode 56 = commit.healthSlotCount ∧
    readU64 commit.encode 64 = commit.healthWriterGeneration := by
  refine ⟨?_, ?_, ?_, ?_, ?_, ?_, ?_⟩
  all_goals
    rw [readU64, bytesAt_encode _ (by decide)]
    simp (disch := simp [length_commitMagic]) only [payload, bytesAt_append_right,
      bytesAt_append_left, length_commitMagic, length_leBytes, Nat.reduceSub, Nat.sub_self,
      bytesAt_leBytes, ofNat_ofLeBytes_word]

theorem decode_encode {commit : TopologyPublicationCommit}
    (h : commit.publicationEpoch ≠ 0 ∧ commit.publicationEpoch ≠ 0xffffffffffffffff) :
    decode commit.encode = .ok commit := by
  have hmagic : bytesAt commit.encode 0 8 = commitMagic := by
    rw [bytesAt_encode _ (by decide), payload, bytesAt_append_left (by rw [length_commitMagic])]
    rw [← length_commitMagic, bytesAt_length]
  have hver : readU32 commit.encode 8 = commitVersion := by
    rw [readU32, bytesAt_encode _ (by decide)]
    simp (disch := simp [length_commitMagic]) only [payload, bytesAt_append_right,
      bytesAt_append_left, length_commitMagic, Nat.sub_self, bytesAt_leBytes]
    exact ofLeBytes_leBytes (by decide)
  have hpay : bytesAt commit.encode 0 checksumOffset = commit.payload := by
    rw [bytesAt_encode _ (by decide), checksumOffset, ← length_payload commit, bytesAt_length]
  have hsum : readU32 commit.encode checksumOffset = (crc32 commit.payload).toNat := by
    rw [readU32, encode, bytesAt_append_right (by rw [length_payload]; decide), length_payload,
      checksumOffset, Nat.sub_self, bytesAt_append_left (by rw [length_leBytes]), bytesAt_leBytes,
      ofLeBytes_checksum]
  obtain ⟨hep, hhashP, hslotsP, hgenP, hhashH, hslotsH,
    hgenH⟩ := readU64_encode commit
  unfold decode
  rw [if_neg (not_not_intro (length_encode commit)), if_neg (not_not_intro hmagic),
    if_neg (not_not_intro hver), hpay, if_neg (not_not_intro hsum)]
  simp only [hep, hhashP, hslotsP, hgenP, hhashH, hslotsH,
    hgenH]
  exact if_neg (not_or.2 h)

/-! ## The identity of two files -/

/-- `validate_header_epoch` (lines 450-469). -/
def validateHeaderEpoch (label : String) (header : ShmHeader) (publicationEpoch : UInt64) :
    PortResult Unit :=
  if header.publicationEpoch ≠ publicationEpoch then
    .error (transitionError (s!"{label} SHM publication epoch {header.publicationEpoch} does not " ++
      s!"match requested epoch {publicationEpoch}"))
  else if stable header.writerGeneration = false then
    .error (transitionError s!"{label} SHM writer generation {header.writerGeneration} is not stable")
  else .ok ()

/-- The identity of two files under an epoch. -/
def ofHeaders (publicationEpoch : UInt64) (point health : ShmHeader) :
    TopologyPublicationCommit where
  publicationEpoch := publicationEpoch
  pointLayoutHash := point.layoutHash
  pointSlotCount := point.slotCount.toUInt64
  pointWriterGeneration := point.writerGeneration
  healthLayoutHash := health.layoutHash
  healthSlotCount := health.slotCount.toUInt64
  healthWriterGeneration := health.writerGeneration

/-- `from_readers` (lines 46-74). -/
def fromReaders (publicationEpoch : UInt64) (point health : ShmHeader) :
    PortResult TopologyPublicationCommit := do
  validateHeaderEpoch "point" point publicationEpoch
  validateHeaderEpoch "channel-health" health publicationEpoch
  .ok (ofHeaders publicationEpoch point health)

/-- `matches_readers` (lines 96-112). -/
def matchesReaders (commit : TopologyPublicationCommit) (point health : ShmHeader) : Bool :=
  commit.publicationEpoch != 0 &&
  point.publicationEpoch == commit.publicationEpoch &&
  health.publicationEpoch == commit.publicationEpoch &&
  point.layoutHash == commit.pointLayoutHash &&
  point.slotCount.toUInt64 == commit.pointSlotCount &&
  point.writerGeneration == commit.pointWriterGeneration &&
  health.layoutHash == commit.healthLayoutHash &&
  health.slotCount.toUInt64 == commit.healthSlotCount &&
  health.writerGeneration == commit.healthWriterGeneration

theorem validateHeaderEpoch_eq_ok_iff {label : String} {header : ShmHeader} :
    validateHeaderEpoch label header publicationEpoch = .ok () ↔
      header.publicationEpoch = publicationEpoch ∧ stable header.writerGeneration = true := by
  unfold validateHeaderEpoch
  split_ifs with hep hstab
  · simp [hep]
  · simp [hstab]
  · simp [not_not.1 hep, Bool.eq_true_of_not_eq_false hstab]

theorem fromReaders_eq_ok_iff {point health : ShmHeader} {commit : TopologyPublicationCommit} :
    fromReaders publicationEpoch point health = .ok commit ↔
      (point.publicationEpoch = publicationEpoch ∧ stable point.writerGeneration = true) ∧
      (health.publicationEpoch = publicationEpoch ∧ stable health.writerGeneration = true) ∧
      commit = ofHeaders publicationEpoch point health := by
  unfold fromReaders
  simp only [bind_eq_ok, exists_unit, validateHeaderEpoch_eq_ok_iff, Except.ok.injEq]
  rw [eq_comm (b := commit)]

/-- Files match a witness when it is theirs. -/
theorem matchesReaders_iff {commit : TopologyPublicationCommit} {point health : ShmHeader} :
    commit.matchesReaders point health = true ↔
      commit.publicationEpoch ≠ 0 ∧ point.publicationEpoch = commit.publicationEpoch ∧
        health.publicationEpoch = commit.publicationEpoch ∧
        commit = ofHeaders commit.publicationEpoch point health := by
  obtain ⟨epoch, pointHash, pointSlots, pointGeneration, healthHash, healthSlots,
    healthGeneration⟩ := commit
  simp only [matchesReaders, ofHeaders, Bool.and_eq_true, bne_iff_ne, beq_iff_eq,
    TopologyPublicationCommit.mk.injEq, true_and]
  constructor
  · rintro ⟨⟨⟨⟨⟨⟨⟨⟨h1, h2⟩, h3⟩, h4⟩, h5⟩, h6⟩, h7⟩, h8⟩, h9⟩
    exact ⟨h1, h2, h3, h4.symm, h5.symm, h6.symm, h7.symm, h8.symm, h9.symm⟩
  · rintro ⟨h1, h2, h3, h4, h5, h6, h7, h8, h9⟩
    exact ⟨⟨⟨⟨⟨⟨⟨⟨h1, h2⟩, h3⟩, h4.symm⟩, h5.symm⟩, h6.symm⟩, h7.symm⟩, h8.symm⟩, h9.symm⟩

end TopologyPublicationCommit

/-! ## The paths -/

/-- `topology_commit_path_from_shm` (lines 172-178), of a path that ends in a file name. -/
def topologyCommitPathFromShm (pointPath : String) : String := pointPath ++ ".topology-commit"

/-- `validate_plane_paths` (lines 335-349). -/
def validatePlanePaths (pointPath healthPath : String) : PortResult Unit :=
  if pointPath = healthPath then
    .error ⟨.invalidData, "point and channel-health SHM paths must be distinct"⟩
  else if topologyCommitPathFromShm pointPath = healthPath then
    .error ⟨.invalidData, "channel-health SHM path must not alias the topology commit witness"⟩
  else .ok ()

/-- `SlotReader::open` on the canonical path: the mapping of the file that is there. -/
def openReader (path : String) (volume : Volume) (fault : Option IoError) :
    Except DataplaneError Segment := do
  attempt s!"open SHM file {debugStr path}" fault
  match volume.canonical with
  | none => .error (.io s!"open SHM file {debugStr path}"
      ⟨.other, "No such file or directory (os error 2)"⟩)
  | some inode => Segment.openReader path (volume.inodes inode)

theorem openReader_eq_ok_iff {path : String} {volume : Volume} {fault : Option IoError}
    {file : Segment} :
    openReader path volume fault = .ok file ↔
      fault = none ∧ ∃ inode, volume.canonical = some inode ∧
        (volume.inodes inode).WellFormed ∧ file = volume.inodes inode := by
  unfold openReader
  cases fault with
  | some source => simp [attempt, bind, Except.bind]
  | none =>
    rw [attempt_none, ok_bind]
    cases volume.canonical with
    | none => simp
    | some inode => simp [Segment.openReader_eq_ok_iff]

/-- `read_topology_publication_commit` (lines 369-377). -/
def readTopologyPublicationCommit (pointPath : String) (witness : Option Bytes)
    (fault : Option IoError) : PortResult TopologyPublicationCommit :=
  let failed (error : IoError) := transitionError
    s!"read SHM topology commit at {debugStr (topologyCommitPathFromShm pointPath)}: {error.text}"
  match fault, witness with
  | some error, _ => .error (failed error)
  | none, none => .error (failed ⟨.other, "No such file or directory (os error 2)"⟩)
  | none, some bytes => TopologyPublicationCommit.decode bytes

theorem readTopologyPublicationCommit_eq_ok_iff {pointPath : String} {witness : Option Bytes}
    {fault : Option IoError} {commit : TopologyPublicationCommit} :
    readTopologyPublicationCommit pointPath witness fault = .ok commit ↔
      fault = none ∧ ∃ bytes, witness = some bytes ∧
        TopologyPublicationCommit.decode bytes = .ok commit := by
  cases fault with
  | some error => simp [readTopologyPublicationCommit]
  | none =>
    cases witness with
    | none | some => simp [readTopologyPublicationCommit]

/-! ## Allocation of an epoch -/

/-- `TopologyPublicationGuard`, with the process that holds it and a
    number of its own. -/
structure TopologyPublicationGuard where
  process : ℕ
  publication : ℕ
  allocated : Option (String × UInt64)

/-- The epoch of the file at a path. -/
def Volume.epoch? (volume : Volume) : Option UInt64 :=
  volume.canonical.map fun inode => (volume.inodes inode).header.publicationEpoch

/-- `observed_plane_epoch` (lines 351-365). -/
def observedPlaneEpoch (path : String) (volume : Volume) (stat fault : Option IoError) :
    PortResult (Option UInt64) :=
  match stat with
  | some error => .error (unavailableError
      s!"inspect SHM plane before epoch allocation at {debugStr path}: {error.text}")
  | none =>
    if volume.canonical = none then .ok none
    else do
      let reader ← port mapManagedError (openReader path volume fault)
      validateTopologyPublicationEpoch reader.header.publicationEpoch
      .ok (some reader.header.publicationEpoch)

/-- The calls that may fail while an epoch is allocated. -/
structure EpochFaults where
  lease : Option IoError := none
  pointStat : Option IoError := none
  pointOpen : Option IoError := none
  healthStat : Option IoError := none
  healthOpen : Option IoError := none
  witness : Option IoError := none

/-- The largest epoch that is there. A witness that cannot be read does not count. -/
def epochFloor (point health : Option UInt64) (witness : PortResult TopologyPublicationCommit) : ℕ :=
  let floor := max (point.getD 0).toNat (health.getD 0).toNat
  match witness with
  | .error _ => floor
  | .ok commit => max floor commit.publicationEpoch.toNat

/-- The end of `next_publication_epoch` (lines 195-222). -/
def epochAfter (floor : ℕ) : PortResult UInt64 :=
  match checkedAdd floor 1 with
  | none => .error ⟨.invalidData,
      "coordinated SHM topology publication epoch space is exhausted"⟩
  | some next => do
    validateTopologyPublicationEpoch (UInt64.ofNat next)
    .ok (UInt64.ofNat next)

section Functions

variable (pointPath healthPath : String) (point health : Volume) (witness : Option Bytes)

/-- An epoch that has not been allocated before. -/
def freshEpoch (faults : EpochFaults) : PortResult UInt64 := do
  port mapManagedError (attempt s!"acquire shared SHM authority lock for {debugStr pointPath}" faults.lease)
  let pointEpoch ← observedPlaneEpoch pointPath point faults.pointStat faults.pointOpen
  let healthEpoch ← observedPlaneEpoch healthPath health faults.healthStat faults.healthOpen
  epochAfter (epochFloor pointEpoch healthEpoch
    (readTopologyPublicationCommit pointPath witness faults.witness))

/-- `next_publication_epoch` (lines 195-222). -/
def nextPublicationEpoch (guard : TopologyPublicationGuard) (faults : EpochFaults) :
    PortResult UInt64 × TopologyPublicationGuard :=
  match validatePlanePaths pointPath healthPath with
  | .error error => (.error error, guard)
  | .ok () =>
    match guard.allocated with
    | some (allocatedPath, epoch) =>
      if allocatedPath = healthPath then (.ok epoch, guard)
      else (.error ⟨.invalidData,
        "one SHM topology publication guard cannot bind two health-plane paths"⟩, guard)
    | none =>
      match freshEpoch pointPath healthPath point health witness faults with
      | .error error => (.error error, guard)
      | .ok epoch => (.ok epoch, { guard with allocated := some (healthPath, epoch) })

/-! ## Commit -/

/-- The calls that may fail during a commit. -/
structure CommitFaults where
  existing : Option IoError := none
  lease : Option IoError := none
  point : Option IoError := none
  health : Option IoError := none
  directory : Option IoError := none
  create : Option IoError := none
  flush : Option IoError := none
  rename : Option IoError := none
  sync : Option IoError := none
  confirm : Option IoError := none

/-- The witness does not go back. One that cannot be read is replaced. -/
def refuseRollback (publicationEpoch : UInt64) (fault : Option IoError) : PortResult Unit :=
  match readTopologyPublicationCommit pointPath witness fault with
  | .error _ => .ok ()
  | .ok existing =>
    if publicationEpoch ≤ existing.publicationEpoch then
      .error (transitionError (s!"refusing to reuse or roll back durable SHM topology " ++
        s!"publication epoch from {existing.publicationEpoch} to {publicationEpoch}"))
    else .ok ()

/-- The identity of the files at the two paths, under the leases. -/
def commitOfPlanes (publicationEpoch : UInt64) (faults : CommitFaults) :
    PortResult TopologyPublicationCommit := do
  validatePlanePaths pointPath healthPath
  validateTopologyPublicationEpoch publicationEpoch
  refuseRollback pointPath witness publicationEpoch faults.existing
  port mapManagedError (attempt s!"acquire shared SHM authority lock for {debugStr pointPath}" faults.lease)
  let pointReader ← port mapManagedError (openReader pointPath point faults.point)
  let healthReader ← port mapManagedError (openReader healthPath health faults.health)
  TopologyPublicationCommit.fromReaders publicationEpoch pointReader.header healthReader.header

/-- A call that fails as unavailable. -/
def attemptAvailable (context : String) : Option IoError → PortResult Unit
  | none => .ok ()
  | some error => .error (unavailableError s!"{context}: {error.text}")

/-- In `commit_topology_publication_under_guard` (lines 281-333). -/
def stageWitness (faults : CommitFaults) : PortResult Unit := do
  attemptAvailable "create SHM topology commit directory" faults.directory
  attemptAvailable "create SHM topology commit" faults.create
  attemptAvailable "flush SHM topology commit" faults.flush

/-- What follows the rename. -/
def confirmWitness (commit : TopologyPublicationCommit) (faults : CommitFaults) :
    PortResult TopologyPublicationCommit := do
  attemptAvailable "flush SHM topology commit directory" faults.sync
  let observed ← readTopologyPublicationCommit pointPath (some commit.encode) faults.confirm
  if observed ≠ commit then
    .error (transitionError "published SHM topology commit could not be revalidated")
  else .ok commit

/-- `commit_topology_publication_under_guard` (lines 281-333): the result, and the witness that is
    then in place. -/
def commitTopologyPublicationUnderGuard (publicationEpoch : UInt64) (faults : CommitFaults) :
    PortResult TopologyPublicationCommit × Option Bytes :=
  match commitOfPlanes pointPath healthPath point health witness publicationEpoch faults with
  | .error error => (.error error, witness)
  | .ok commit =>
    match stageWitness faults with
    | .error error => (.error error, witness)
    | .ok () =>
      match faults.rename with
      | some error => (.error (unavailableError s!"publish SHM topology commit: {error.text}"), witness)
      | none => (confirmWitness pointPath commit faults, some commit.encode)

/-- `commit` (lines 225-240). -/
def commit (guard : TopologyPublicationGuard) (publicationEpoch : UInt64) (faults : CommitFaults) :
    PortResult TopologyPublicationCommit × Option Bytes :=
  match validatePlanePaths pointPath healthPath with
  | .error error => (.error error, witness)
  | .ok () =>
    if guard.allocated.any (fun (path, epoch) => path ≠ healthPath ∨ epoch ≠ publicationEpoch) then
      (.error ⟨.invalidData,
        "SHM topology commit does not match the path and epoch allocated by its guard"⟩, witness)
    else commitTopologyPublicationUnderGuard pointPath healthPath point health witness
      publicationEpoch faults

/-! ## Validation -/

/-- The manifests that a reader was composed with. -/
structure ExpectedTopology where
  pointHash : UInt64
  pointSlots : ℕ
  healthHash : UInt64
  healthSlots : ℕ

/-- The calls that may fail during a validation. -/
structure ValidationFaults where
  point : Option IoError := none
  health : Option IoError := none
  witness : Option IoError := none

/-- `validate_topology_publication_locked` (lines 406-434). -/
def validateTopologyPublicationLocked (expected : ExpectedTopology) (faults : ValidationFaults) :
    PortResult TopologyPublicationCommit := do
  let pointReader ← port mapManagedError (openReader pointPath point faults.point)
  let healthReader ← port mapManagedError (openReader healthPath health faults.health)
  let pointHeader := pointReader.header
  let healthHeader := healthReader.header
  if pointHeader.layoutHash ≠ expected.pointHash ∨
      pointHeader.slotCount.toNat ≠ expected.pointSlots ∨
      healthHeader.layoutHash ≠ expected.healthHash ∨
      healthHeader.slotCount.toNat ≠ expected.healthSlots then
    .error (transitionError "canonical SHM planes do not match the expected topology manifests")
  else
    let commit ← readTopologyPublicationCommit pointPath witness faults.witness
    if commit.matchesReaders pointHeader healthHeader = false then
      .error (transitionError "canonical SHM planes do not match the committed publication witness")
    else .ok commit

end Functions

/-! ## What the functions do -/

section Specs

variable {pointPath healthPath : String} {point health : Volume} {witness : Option Bytes}

theorem observedPlaneEpoch_eq_ok {path : String} {volume : Volume} {stat fault : Option IoError}
    {epoch : Option UInt64} (h : observedPlaneEpoch path volume stat fault = .ok epoch) :
    epoch = volume.epoch? := by
  cases stat with
  | some error => cases h
  | none =>
    unfold observedPlaneEpoch at h
    by_cases hnone : volume.canonical = none
    · rw [if_pos hnone] at h
      cases h
      rw [Volume.epoch?, hnone]
      rfl
    · rw [if_neg hnone] at h
      simp only [bind_eq_ok, exists_unit, port_eq_ok_iff, openReader_eq_ok_iff] at h
      obtain ⟨reader, ⟨-, inode, hcan, -, rfl⟩, -, h⟩ := h
      cases h
      rw [Volume.epoch?, hcan]
      rfl

theorem epochAfter_eq_ok {floor : ℕ} {epoch : UInt64} (h : epochAfter floor = .ok epoch) :
    epoch.toNat = floor + 1 ∧ epoch ≠ 0 ∧ epoch ≠ 0xffffffffffffffff := by
  unfold epochAfter at h
  rcases hnext : checkedAdd floor 1 with _ | next
  · rw [hnext] at h
    cases h
  rw [hnext] at h
  simp only [bind_eq_ok, exists_unit, validateTopologyPublicationEpoch_eq_ok_iff] at h
  obtain ⟨hval, h⟩ := h
  cases h
  obtain ⟨hbd, rfl⟩ := checkedAdd_eq_some.1 hnext
  refine ⟨UInt64.toNat_ofNat_of_lt' ?_, hval⟩
  have : u64Max = 2 ^ 64 - 1 := rfl
  have : UInt64.size = 2 ^ 64 := rfl
  omega

theorem le_epochFloor (point health : Option UInt64)
    (witness : PortResult TopologyPublicationCommit) :
    (point.getD 0).toNat ≤ epochFloor point health witness ∧
      (health.getD 0).toNat ≤ epochFloor point health witness := by
  unfold epochFloor
  cases witness with
  | error error => exact ⟨Nat.le_max_left _ _, Nat.le_max_right _ _⟩
  | ok commit =>
    dsimp only
    omega

/-- A new epoch is above those of both files. -/
theorem freshEpoch_eq_ok {faults : EpochFaults} {epoch : UInt64}
    (h : freshEpoch pointPath healthPath point health witness faults = .ok epoch) :
    (epoch ≠ 0 ∧ epoch ≠ 0xffffffffffffffff) ∧
      (∀ observed, point.epoch? = some observed → observed < epoch) ∧
      (∀ observed, health.epoch? = some observed → observed < epoch) := by
  unfold freshEpoch at h
  obtain ⟨-, -, h⟩ := bind_eq_ok.1 h
  obtain ⟨pointEpoch, hpt, h⟩ := bind_eq_ok.1 h
  obtain ⟨healthEpoch, hhealth, h⟩ := bind_eq_ok.1 h
  obtain rfl := observedPlaneEpoch_eq_ok hpt
  obtain rfl := observedPlaneEpoch_eq_ok hhealth
  obtain ⟨hnext, hval⟩ := epochAfter_eq_ok h
  obtain ⟨hfloorP, hfloorH⟩ := le_epochFloor point.epoch? health.epoch?
    (readTopologyPublicationCommit pointPath witness faults.witness)
  generalize epochFloor point.epoch? health.epoch? _ = floor at hnext hfloorP hfloorH
  refine ⟨hval, ?_, ?_⟩
  · intro observed hobs
    rw [hobs, Option.getD_some] at hfloorP
    rw [UInt64.lt_iff_toNat_lt]
    omega
  · intro observed hobs
    rw [hobs, Option.getD_some] at hfloorH
    rw [UInt64.lt_iff_toNat_lt]
    omega

variable (pointPath healthPath point health witness) in
/-- The guard keeps the first epoch that it allocates. -/
theorem nextPublicationEpoch_cases (guard : TopologyPublicationGuard) (faults : EpochFaults) :
    ((nextPublicationEpoch pointPath healthPath point health witness guard faults).2 = guard ∧
      (guard.allocated = none → ∀ epoch,
        (nextPublicationEpoch pointPath healthPath point health witness guard faults).1 ≠
          .ok epoch)) ∨
    guard.allocated = none ∧ ∃ epoch,
      freshEpoch pointPath healthPath point health witness faults = .ok epoch ∧
      nextPublicationEpoch pointPath healthPath point health witness guard faults =
        (.ok epoch, { guard with allocated := some (healthPath, epoch) }) := by
  unfold nextPublicationEpoch
  rcases validatePlanePaths pointPath healthPath with error | _
  · exact .inl ⟨rfl, fun _ _ h => by cases h⟩
  dsimp only
  cases halloc : guard.allocated with
  | some allocated =>
    refine .inl ⟨?_, fun h => by cases h⟩
    dsimp only
    split_ifs
    · rfl
    · rfl
  | none =>
    dsimp only
    cases hfr : freshEpoch pointPath healthPath point health witness faults with
    | error error => exact .inl ⟨rfl, fun _ _ h => by cases h⟩
    | ok epoch => exact .inr ⟨rfl, epoch, rfl, rfl⟩

/-- The witness is that of the two files at the paths. -/
theorem commitOfPlanes_eq_ok {faults : CommitFaults} {commit : TopologyPublicationCommit}
    (h : commitOfPlanes pointPath healthPath point health witness publicationEpoch faults = .ok
      commit) :
    (publicationEpoch ≠ 0 ∧ publicationEpoch ≠ 0xffffffffffffffff) ∧
    ∃ pointInode healthInode, point.canonical = some pointInode ∧
      health.canonical = some healthInode ∧
      (point.inodes pointInode).header.publicationEpoch = publicationEpoch ∧
      (health.inodes healthInode).header.publicationEpoch = publicationEpoch ∧
      commit = .ofHeaders publicationEpoch (point.inodes pointInode).header
        (health.inodes healthInode).header := by
  unfold commitOfPlanes at h
  simp only [bind_eq_ok, exists_unit, validateTopologyPublicationEpoch_eq_ok_iff, port_eq_ok_iff,
    openReader_eq_ok_iff, TopologyPublicationCommit.fromReaders_eq_ok_iff] at h
  obtain ⟨-, hval, -, -, pointFile, ⟨-, pointInode, hpt, -, rfl⟩, healthFile,
    ⟨-, healthInode, hhealth, -, rfl⟩, ⟨hepochP, -⟩, ⟨hepochH, -⟩, rfl⟩ := h
  exact ⟨hval, pointInode, healthInode, hpt, hhealth, hepochP, hepochH, rfl⟩

variable (pointPath healthPath point health witness) in
/-- A commit changes nothing, or puts the witness of the two files at the paths in place. -/
theorem commit_cases (guard : TopologyPublicationGuard) (publicationEpoch : UInt64)
    (faults : CommitFaults) :
    (∃ error, commit pointPath healthPath point health witness guard publicationEpoch faults =
      (.error error, witness)) ∨
    ∃ written, commitOfPlanes pointPath healthPath point health witness publicationEpoch faults =
        .ok written ∧
      (∀ path epoch, guard.allocated = some (path, epoch) → epoch = publicationEpoch) ∧
      commit pointPath healthPath point health witness guard publicationEpoch faults =
        (confirmWitness pointPath written faults, some written.encode) := by
  unfold commit
  rcases validatePlanePaths pointPath healthPath with error | _
  · exact .inl ⟨error, rfl⟩
  dsimp only
  split_ifs with halloc
  · exact .inl ⟨_, rfl⟩
  unfold commitTopologyPublicationUnderGuard
  cases hcomm : commitOfPlanes pointPath healthPath point health witness publicationEpoch
    faults with
  | error error => exact .inl ⟨error, rfl⟩
  | ok written =>
    dsimp only
    rcases stageWitness faults with error | _
    · exact .inl ⟨error, rfl⟩
    dsimp only
    cases faults.rename with
    | some error => exact .inl ⟨_, rfl⟩
    | none =>
      refine .inr ⟨written, rfl, fun path epoch heq => ?_, rfl⟩
      rw [heq] at halloc
      simp only [Option.any_some, decide_eq_true_eq, not_or, not_not] at halloc
      exact halloc.2

/-- What is accepted: the files at the paths are those that the witness names. -/
theorem validateTopologyPublicationLocked_eq_ok {expected : ExpectedTopology}
    {faults : ValidationFaults} {commit : TopologyPublicationCommit}
    (h : validateTopologyPublicationLocked pointPath healthPath point health witness expected
      faults = .ok commit) :
    ∃ pointInode healthInode bytes, point.canonical = some pointInode ∧
      health.canonical = some healthInode ∧ witness = some bytes ∧
      TopologyPublicationCommit.decode bytes = .ok commit ∧
      (point.inodes pointInode).header.layoutHash = expected.pointHash ∧
      (point.inodes pointInode).header.slotCount.toNat = expected.pointSlots ∧
      (health.inodes healthInode).header.layoutHash = expected.healthHash ∧
      (health.inodes healthInode).header.slotCount.toNat = expected.healthSlots ∧
      commit.matchesReaders (point.inodes pointInode).header
        (health.inodes healthInode).header = true := by
  unfold validateTopologyPublicationLocked at h
  obtain ⟨pointFile, hpt, h⟩ := bind_eq_ok.1 h
  obtain ⟨healthFile, hhealth, h⟩ := bind_eq_ok.1 h
  obtain ⟨-, pointInode, hinodeP, -, rfl⟩ := openReader_eq_ok_iff.1 (port_eq_ok_iff.1 hpt)
  obtain ⟨-, healthInode, hinodeH, -, rfl⟩ :=
    openReader_eq_ok_iff.1 (port_eq_ok_iff.1 hhealth)
  dsimp only at h
  split_ifs at h with hexp
  simp only [not_or, not_not] at hexp
  obtain ⟨found, hfnd, h⟩ := bind_eq_ok.1 h
  obtain ⟨-, bytes, hbs, hdec⟩ := readTopologyPublicationCommit_eq_ok_iff.1 hfnd
  split_ifs at h with hmatches
  cases h
  exact ⟨pointInode, healthInode, bytes, hinodeP, hinodeH, hbs, hdec, hexp.1,
    hexp.2.1, hexp.2.2.1, hexp.2.2.2, Bool.eq_true_of_not_eq_false hmatches⟩

end Specs

end AetherEdge.Shm
