import AetherEdge.Common.Text
import AetherEdge.Ports
import AetherEdge.Dataplane.Slot

/-!
# Shared-memory segments

Model of the files of the data plane (`crates/aether-dataplane/src/core/header.rs`,
`core/writer.rs`, `core/reader.rs`): a header followed by the slots. A file is what a mapping of
it shows; a text of it that is too short for a header is told apart by its length. The errors of
the operating system are added where the functions are called.

* `create_eq_ok_iff`: a new segment is published under its layout and has only unwritten slots;
* `openExisting_eq_ok_iff`, `openReader_eq_ok_iff`: what a mapping is checked for;
* `stable_newGeneration`, `not_stable_invalidated`: published generations are stable, invalidated
  ones are not.
-/

namespace AetherEdge.Dataplane

/-- `error.rs:8-24`. -/
inductive DataplaneError where
  | invalidLayout (detail : String)
  | invalidPath (path : String)
  | io (context : String) (source : IoError)
  deriving DecidableEq, Repr

/-- `error.to_string()`. -/
def DataplaneError.toText : DataplaneError → String
  | .invalidLayout detail => s!"invalid shared-memory layout: {detail}"
  | .invalidPath path => s!"invalid shared-memory path: {debugStr path}"
  | .io context source => s!"{context}: {source.text}"

/-- `map_dataplane_error` (`runtime.rs:415-422`). -/
def mapDataplaneError (error : DataplaneError) : PortError :=
  let kind := match error with
    | .io _ _ => .unavailable
    | .invalidLayout _ => .conflict
    | .invalidPath _ => .conflict
  ⟨kind, error.toText⟩

/-- `map_io_error` (`managed.rs:482-492`). -/
def mapIoError (context : String) (error : IoError) : PortError :=
  let kind := match error.kind with
    | .permissionDenied | .invalidInput => .permanent
    | _ => .unavailable
  ⟨kind, s!"{context}: {error.text}"⟩

/-- `map_dataplane_error` (`managed.rs:469-480`), of the readers and of the health plane. -/
def mapManagedError : DataplaneError → PortError
  | .invalidLayout message => ⟨.invalidData, message⟩
  | .invalidPath path => ⟨.permanent, s!"invalid SHM path: {debugStr path}"⟩
  | .io context source => mapIoError context source

/-! ## The header -/

/-- `AETHER_SHM_MAGIC` (`header.rs:9`): the bytes `AETHER__`, big-endian. -/
def aetherShmMagic : UInt64 := 0x4145544845525f5f

/-- `header.rs:16`. -/
def shmLayoutVersion : UInt32 := 5

/-- `ShmHeader` and its snapshot, without the reserved bytes. -/
structure ShmHeader where
  magic : UInt64
  version : UInt32
  slotCount : UInt32
  writerHeartbeat : UInt64
  layoutHash : UInt64
  writerGeneration : UInt64
  publicationEpoch : UInt64
  deriving DecidableEq, Repr

/-- `size_of::<ShmHeader>()`. -/
def shmHeaderSize : ℕ := 64

/-- `size_of::<PointSlot>()`. -/
def pointSlotSize : ℕ := 32

/-- `calculate_file_size` (`header.rs:92-94`). -/
def calculateFileSize (slotCount : ℕ) : ℕ := shmHeaderSize + slotCount * pointSlotSize

/-- `validate_mapping_layout` (`header.rs:105-117`). -/
def validateMappingLayout (mappedLen slotCount : ℕ) : Except DataplaneError Unit :=
  if 2 ^ 32 ≤ slotCount then
    .error (.invalidLayout s!"slot_count {slotCount} exceeds u32::MAX")
  else
    let required := calculateFileSize slotCount
    if mappedLen ≠ required then
      .error (.invalidLayout (s!"SHM mapping length mismatch: have {mappedLen} bytes, " ++
        s!"need exactly {required} for slot_count={slotCount}"))
    else .ok ()

theorem validateMappingLayout_eq_ok_iff {mappedLen slotCount : ℕ} :
    validateMappingLayout mappedLen slotCount = .ok () ↔
      slotCount < 2 ^ 32 ∧ mappedLen = calculateFileSize slotCount := by
  unfold validateMappingLayout
  by_cases hcnt : 2 ^ 32 ≤ slotCount
  · rw [if_pos hcnt]
    constructor
    · intro h; cases h
    · intro h; omega
  · rw [if_neg hcnt]
    by_cases hlen : mappedLen = calculateFileSize slotCount
    · simp only [hlen, ne_eq, not_true_eq_false, if_false, and_true, true_iff]
      exact Nat.lt_of_not_le hcnt
    · simp [hlen]

/-! ## Generations -/

/-- `generation != 0 && generation & 1 == 0`: the generation is published. -/
def stable (generation : UInt64) : Bool := generation != 0 && generation &&& 1 == 0

/-- `generation | 1`: what `begin_generation_swap` (`writer.rs:382-417`) leaves. -/
def invalidated (generation : UInt64) : UInt64 := generation ||| 1

/-- `new_generation` (`writer.rs:502-510`), of the clock and the process-wide sequence. -/
def newGeneration (wallNanos sequence : UInt64) : UInt64 :=
  let generation := (wallNanos + sequence) &&& ~~~1
  if generation < 2 then 2 else generation

theorem not_stable_invalidated (generation : UInt64) : stable (invalidated generation) = false := by
  have hodd : (generation ||| 1) &&& 1 = 1 := by
    rw [UInt64.and_comm, UInt64.or_comm]
    exact UInt64.toBitVec_inj.1 (by ext i; simp +contextual)
  rw [stable, invalidated, hodd]
  exact Bool.and_false _

theorem stable_newGeneration (wallNanos sequence : UInt64) :
    stable (newGeneration wallNanos sequence) = true := by
  unfold newGeneration
  by_cases hlow : (wallNanos + sequence) &&& ~~~1 < 2
  · simp only [if_pos hlow]
    decide
  simp only [if_neg hlow]
  have hne : (wallNanos + sequence) &&& ~~~1 ≠ 0 := by
    intro hzero
    rw [hzero] at hlow
    exact hlow (by decide)
  have heven : (wallNanos + sequence) &&& ~~~1 &&& 1 = 0 := by
    rw [UInt64.and_assoc]
    exact UInt64.toBitVec_inj.1 (by ext i; simp)
  simp [stable, hne, heven]

/-! ## Files -/

/-- The contents of a file: its header and its slots, by index. -/
structure Segment where
  len : ℕ
  header : ShmHeader
  slots : ℕ → PointSlot

namespace Segment

/-- A segment as `SlotWriter::create` (`writer.rs:111-174`) leaves it. -/
def fresh (slotCount : ℕ) (layoutHash publicationEpoch generation : UInt64) : Segment where
  len := calculateFileSize slotCount
  header :=
    { magic := aetherShmMagic
      version := shmLayoutVersion
      slotCount := UInt32.ofNat slotCount
      writerHeartbeat := 0
      layoutHash := layoutHash
      writerGeneration := generation
      publicationEpoch := publicationEpoch }
  slots index := if index < slotCount then PointSlot.unwritten else PointSlot.zeroed

/-- `create` (`writer.rs:111-174`). -/
def create (slotCount : ℕ) (layoutHash publicationEpoch generation : UInt64) :
    Except DataplaneError Segment :=
  if publicationEpoch = 0 then .error (.invalidLayout "publication_epoch must be non-zero")
  else if 2 ^ 32 ≤ slotCount then
    .error (.invalidLayout s!"slot_count {slotCount} exceeds u32::MAX")
  else .ok (fresh slotCount layoutHash publicationEpoch generation)

/-- `SlotWriter::open_existing` (`writer.rs:182-253`), once the file is open: the mapping that the
    writer gets. -/
def openExisting (path : String) (file : Segment) (expectedSlotCount : ℕ)
    (expectedLayoutHash : UInt64) : Except DataplaneError Segment := do
  if file.len < shmHeaderSize then
    .error (.invalidLayout s!"SHM file {debugStr path} is shorter than its header")
  else if file.header.magic ≠ aetherShmMagic then
    .error (.invalidLayout (s!"SHM magic mismatch: expected 0x{lowerHex aetherShmMagic.toNat}, " ++
      s!"got 0x{lowerHex file.header.magic.toNat}"))
  else if file.header.version ≠ shmLayoutVersion then
    .error (.invalidLayout
      s!"SHM version mismatch: expected {shmLayoutVersion}, got {file.header.version}")
  else
    let slotCount := file.header.slotCount.toNat
    validateMappingLayout file.len slotCount
    if slotCount ≠ expectedSlotCount then
      .error (.invalidLayout
        s!"SHM slot_count mismatch: expected {expectedSlotCount}, got {slotCount}")
    else if file.header.layoutHash ≠ expectedLayoutHash then
      .error (.invalidLayout (
        s!"SHM layout hash mismatch: expected 0x{padZeros 16 (lowerHex expectedLayoutHash.toNat)}, " ++
        s!"got 0x{padZeros 16 (lowerHex file.header.layoutHash.toNat)}"))
    else if file.header.publicationEpoch = 0 then
      .error (.invalidLayout "SHM publication epoch is zero")
    else if stable file.header.writerGeneration = false then
      .error (.invalidLayout (s!"SHM writer generation {file.header.writerGeneration} is not a " ++
        "stable published generation"))
    else .ok file

/-- `SlotReader::open` (`reader.rs:41-93`) and `from_mmap`, once the file is open. -/
def openReader (path : String) (file : Segment) : Except DataplaneError Segment := do
  if file.len < shmHeaderSize then
    .error (.invalidLayout (s!"SHM file {debugStr path} is shorter than its header: {file.len} < " ++
      s!"{shmHeaderSize}"))
  else if file.header.magic ≠ aetherShmMagic then
    .error (.invalidLayout (s!"invalid SHM magic for {debugStr path}: expected " ++
      s!"0x{upperHex aetherShmMagic.toNat}, got 0x{upperHex file.header.magic.toNat}"))
  else if file.header.version ≠ shmLayoutVersion then
    .error (.invalidLayout (s!"unsupported SHM version for {debugStr path}: expected " ++
      s!"{shmLayoutVersion}, got {file.header.version}"))
  else if file.header.publicationEpoch = 0 then
    .error (.invalidLayout s!"SHM publication epoch is zero for {debugStr path}")
  else
    validateMappingLayout file.len file.header.slotCount.toNat
    .ok file

/-- `read_slot` (`slot_io.rs:49-61`). -/
def readSlot (file : Segment) (slotCount index : ℕ) : Option SlotRead :=
  if slotCount ≤ index then none else (file.slots index).tryLoadConsistent

/-- `set_direct` (`writer.rs:439-455`), on a slot that is there. -/
def setDirect (file : Segment) (slot : ℕ) (record : SlotRead) : Segment :=
  { file with slots := Function.update file.slots slot ((file.slots slot).set record) }

/-- The file is a complete segment with a published epoch. -/
structure WellFormed (file : Segment) : Prop where
  magic : file.header.magic = aetherShmMagic
  version : file.header.version = shmLayoutVersion
  len : file.len = calculateFileSize file.header.slotCount.toNat
  epoch : file.header.publicationEpoch ≠ 0

theorem WellFormed.shmHeaderSize_le {file : Segment} (h : file.WellFormed) :
    shmHeaderSize ≤ file.len := by
  rw [h.len]
  exact Nat.le_add_right _ _

theorem create_eq_ok_iff {slotCount : ℕ} {layoutHash publicationEpoch generation : UInt64}
    {file : Segment} :
    create slotCount layoutHash publicationEpoch generation = .ok file ↔
      publicationEpoch ≠ 0 ∧ slotCount < 2 ^ 32 ∧
        file = fresh slotCount layoutHash publicationEpoch generation := by
  unfold create
  by_cases hep : publicationEpoch = 0
  · simp [hep]
  rw [if_neg hep]
  by_cases hcnt : 2 ^ 32 ≤ slotCount
  · rw [if_pos hcnt]
    constructor
    · intro h; cases h
    · intro h; omega
  · rw [if_neg hcnt, Except.ok.injEq, eq_comm]
    exact ⟨fun h => ⟨hep, Nat.lt_of_not_le hcnt, h⟩, fun h => h.2.2⟩

theorem openReader_eq_ok_iff {path : String} {file mapping : Segment} :
    openReader path file = .ok mapping ↔ file.WellFormed ∧ mapping = file := by
  constructor
  · intro h
    unfold openReader at h
    split_ifs at h with hlen hmagic hver hep
    simp only [bind_eq_ok, exists_unit, validateMappingLayout_eq_ok_iff, Except.ok.injEq] at h
    exact ⟨⟨not_not.1 hmagic, not_not.1 hver, h.1.2, hep⟩, h.2.symm⟩
  · rintro ⟨h, hmap⟩
    have hcnt : file.header.slotCount.toNat < 2 ^ 32 := file.header.slotCount.toNat_lt
    unfold openReader
    rw [if_neg (Nat.not_lt.2 h.shmHeaderSize_le), if_neg (not_not_intro h.magic),
      if_neg (not_not_intro h.version), if_neg h.epoch,
      validateMappingLayout_eq_ok_iff.2 ⟨hcnt, h.len⟩, hmap]
    rfl

/-- What a writer checks when it opens a segment. It changes nothing. -/
theorem openExisting_eq_ok_iff {path : String} {file mapping : Segment} {slotCount : ℕ}
    {layoutHash : UInt64} :
    openExisting path file slotCount layoutHash = .ok mapping ↔
      file.WellFormed ∧ file.header.slotCount.toNat = slotCount ∧
        file.header.layoutHash = layoutHash ∧ stable file.header.writerGeneration = true ∧
        mapping = file := by
  constructor
  · intro h
    unfold openExisting at h
    by_cases hlen : file.len < shmHeaderSize
    · rw [if_pos hlen] at h; cases h
    by_cases hmagic : file.header.magic = aetherShmMagic
    swap
    · rw [if_neg hlen, if_pos hmagic] at h; cases h
    by_cases hver : file.header.version = shmLayoutVersion
    swap
    · rw [if_neg hlen, if_neg (not_not_intro hmagic), if_pos hver] at h; cases h
    rw [if_neg hlen, if_neg (not_not_intro hmagic), if_neg (not_not_intro hver)] at h
    simp only [bind_eq_ok, exists_unit, validateMappingLayout_eq_ok_iff] at h
    obtain ⟨hlay, h⟩ := h
    split_ifs at h with hcnt hhash hep hstab
    refine ⟨⟨hmagic, hver, hlay.2, hep⟩, not_not.1 hcnt, not_not.1 hhash, ?_,
      (Except.ok.inj h).symm⟩
    exact Bool.eq_true_of_not_eq_false hstab
  · rintro ⟨h, hslots, hhash, hstab, hmap⟩
    have hcnt : file.header.slotCount.toNat < 2 ^ 32 := file.header.slotCount.toNat_lt
    unfold openExisting
    rw [if_neg (Nat.not_lt.2 h.shmHeaderSize_le), if_neg (not_not_intro h.magic),
      if_neg (not_not_intro h.version)]
    simp only [validateMappingLayout_eq_ok_iff.2 ⟨hcnt, h.len⟩]
    rw [ok_bind, if_neg (not_not_intro hslots), if_neg (not_not_intro hhash), if_neg h.epoch,
      if_neg (by simp [hstab]), hmap]

end Segment

end AetherEdge.Dataplane
