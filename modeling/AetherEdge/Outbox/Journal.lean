import AetherEdge.Common.Binary
import AetherEdge.Common.Framing
import AetherEdge.Common.OrderedMap
import AetherEdge.Ports

/-!
# The journal of the file outbox

Model of the on-disk format and of recovery in `libs/aether-store-local/src/file_outbox.rs`. A
journal is a sixteen-byte header followed by records, each a magic number, a length, a checksum
and a payload that starts with an operation byte.

* `ByteCursor`: the reader of a payload's fields;
* `recordFormat`: the record layout with its reader;
* `Recovered`, `applyRecord`: the contents of an outbox and the replay of one payload;
* `recover`: the recovery of a journal file.

A file is shorter than `2 ^ 63` bytes, so the offsets of `recover` and `ByteCursor` do not
overflow; their overflow checks and the conversions of slices of known length are left out.
-/

namespace AetherEdge.Outbox

open OrderedMap Framing List
open Std (ExtTreeMap)

/-- Line 19. -/
def fileMagic : Bytes := strBytes "AETHOBX1"

/-- Line 20. -/
def fileVersion : ℕ := 1

/-- Line 21. -/
def fileHeaderLen : ℕ := 16

/-- Line 22. -/
def recordMagic : ℕ := 0x58424f41

/-- Line 23. -/
def recordHeaderLen : ℕ := 12

/-- Line 24. -/
def maxRecordLen : ℕ := 16 * 1024 * 1024

/-- Line 25. -/
def maxCapacity : ℕ := (maxRecordLen - 5) / 8

/-- Line 28. -/
def opEnqueue : UInt8 := 1

/-- Line 29. -/
def opAcknowledge : UInt8 := 2

/-- Line 30. -/
def opCheckpoint : UInt8 := 3

/-- `u32::MAX`. -/
def u32Max : ℕ := 2 ^ 32 - 1

/-! ## Errors -/

/-- `corrupt` (lines 733-735). -/
def corrupt (message : String) : PortError := ⟨.invalidData, message⟩

/-- `io_error` (lines 737-747). -/
def ioError (context : String) (error : IoError) : PortError :=
  let kind : PortErrorKind :=
    match error.kind with
    | .permissionDenied | .invalidInput | .invalidData | .unsupported => .permanent
    | .alreadyExists => .conflict
    | .other => .unavailable
  ⟨kind, s!"{context}: {error.text}"⟩

/-! ## Reading fields -/

/-- `ByteCursor`; the state is the part not read yet. -/
abbrev ByteCursor := StateT Bytes (Except PortError)

namespace ByteCursor

/-- `read_bytes` (lines 712-723). -/
def readBytes (length : ℕ) : ByteCursor Bytes := fun rest =>
  if rest.length < length then
    .error (corrupt "outbox record ended before all fields were decoded")
  else .ok (rest.take length, rest.drop length)

/-- `read_u8` (lines 690-692). -/
def readU8 : ByteCursor UInt8 := do
  return (← readBytes 1).headD 0

/-- `read_u32` (lines 694-701). -/
def readU32 : ByteCursor UInt32 := do
  return UInt32.ofNat (ofLeBytes (← readBytes 4))

/-- `read_u64` (lines 703-710). -/
def readU64 : ByteCursor UInt64 := do
  return UInt64.ofNat (ofLeBytes (← readBytes 8))

/-- `String::from_utf8` with the error of its only use. -/
def decodeDestination (bytes : Bytes) : ByteCursor String :=
  match String.fromUTF8? ⟨bytes.toArray⟩ with
  | none => throw (corrupt "outbox destination is not UTF-8")
  | some destination => pure destination

/-- `finish` (lines 725-730). -/
def finish : ByteCursor Unit := fun rest =>
  if rest ≠ [] then .error (corrupt "outbox record contains trailing bytes") else .ok ((), rest)

theorem run_readBytes {length : ℕ} {bytes : Bytes} (h : bytes.length = length) (rest : Bytes) :
    (readBytes length).run (bytes ++ rest) = .ok (bytes, rest) := by
  show readBytes length (bytes ++ rest) = _
  unfold readBytes
  rw [if_neg (by rw [length_append]; omega), take_left' h, drop_left' h]

@[simp] theorem run_readU8 (byte : UInt8) (rest : Bytes) :
    readU8.run (byte :: rest) = .ok (byte, rest) := by
  have h : (readBytes 1).run ([byte] ++ rest) = .ok ([byte], rest) := run_readBytes rfl rest
  rw [singleton_append] at h
  simp only [readU8, StateT.run_bind, h, ok_bind]
  rfl

theorem run_readU32 {n : ℕ} (h : n ≤ u32Max) (rest : Bytes) :
    readU32.run (leBytes 4 n ++ rest) = .ok (UInt32.ofNat n, rest) := by
  simp only [readU32, StateT.run_bind, run_readBytes (length_leBytes 4 n), ok_bind]
  rw [ofLeBytes_leBytes (lt_of_le_of_lt h (by norm_num [u32Max]))]
  rfl

theorem run_readU64 {n : ℕ} (h : n ≤ u64Max) (rest : Bytes) :
    readU64.run (leBytes 8 n ++ rest) = .ok (UInt64.ofNat n, rest) := by
  simp only [readU64, StateT.run_bind, run_readBytes (length_leBytes 8 n), ok_bind]
  rw [ofLeBytes_leBytes (lt_of_le_of_lt h (by norm_num [u64Max]))]
  rfl

@[simp] theorem run_decodeDestination (destination : String) (rest : Bytes) :
    (decodeDestination (strBytes destination)).run rest = .ok (destination, rest) := by
  have h : String.fromUTF8? ⟨(strBytes destination).toArray⟩ = some destination := by
    simp [String.fromUTF8?, strBytes, String.toUTF8, destination.isValidUTF8, String.fromUTF8]
  simp only [decodeDestination, h]
  rfl

@[simp] theorem run_finish : finish.run [] = .ok ((), []) := rfl

end ByteCursor

/-! ## Records -/

/-- `validate_record_size` (lines 574-585). -/
def validateRecordSize (payload : Bytes) : PortResult Unit :=
  if payload.isEmpty || payload.length > maxRecordLen then
    .error ⟨.invalidData,
      s!"outbox journal record size {payload.length} exceeds maximum {maxRecordLen}"⟩
  else .ok ()

/-- The payloads `validate_record_size` accepts. -/
def RecordFits (payload : Bytes) : Prop :=
  payload ≠ [] ∧ payload.length ≤ maxRecordLen

variable {payload : Bytes}

theorem validateRecordSize_ok : validateRecordSize payload = .ok () ↔ RecordFits payload := by
  unfold validateRecordSize RecordFits
  split_ifs with h
  · simp only [Bool.or_eq_true, List.isEmpty_iff, decide_eq_true_eq] at h
    simp only [false_iff, not_and, not_le]
    intro hne
    exact h.resolve_left hne
  · simp only [Bool.or_eq_true, List.isEmpty_iff, decide_eq_true_eq, not_or, not_lt] at h
    simpa using h

/-- The header in `write_record` (lines 604-615). -/
def recordHeader (payload : Bytes) : Bytes :=
  leBytes 4 recordMagic ++ (leBytes 4 payload.length ++ leBytes 4 (crc32 payload).toNat)

/-- The bytes `write_record` (lines 604-615) writes for a payload. -/
def recordFrame (payload : Bytes) : Bytes := recordHeader payload ++ payload

/-- One turn of the loop of `recover` (lines 370-473) up to the checksum. A record whose checksum
    does not match counts as torn when it is the last one. -/
def readRecord (offset : ℕ) (rest : Bytes) : Read PortError :=
  if rest.length < recordHeaderLen then .torn
  else if ofLeBytes (rest.take 4) ≠ recordMagic then
    .corrupt (corrupt s!"outbox record at offset {offset} has invalid magic")
  else
    let payloadLen := ofLeBytes ((rest.drop 4).take 4)
    if payloadLen = 0 ∨ payloadLen > maxRecordLen then
      .corrupt (corrupt s!"outbox record at offset {offset} has invalid length {payloadLen}")
    else
      let expectedChecksum := ofLeBytes ((rest.drop 8).take 4)
      let recordLen := recordHeaderLen + payloadLen
      if recordLen > rest.length then .torn
      else
        let payload := (rest.drop recordHeaderLen).take payloadLen
        if (crc32 payload).toNat ≠ expectedChecksum then
          if recordLen = rest.length then .torn
          else .corrupt (corrupt s!"outbox record at offset {offset} failed checksum")
        else .payload payload recordLen

theorem length_recordHeader (payload : Bytes) :
    (recordHeader payload).length = recordHeaderLen := by
  simp only [recordHeader, recordHeaderLen, length_append, length_leBytes]

theorem length_recordFrame (payload : Bytes) :
    (recordFrame payload).length = recordHeaderLen + payload.length := by
  rw [recordFrame, length_append, length_recordHeader]

theorem RecordFits.length_pos (h : RecordFits payload) : 0 < payload.length :=
  length_pos_of_ne_nil h.1

/-- What the reader makes of a complete header, whatever follows it. -/
theorem readRecord_header (h : RecordFits payload) (offset : ℕ) (rest : Bytes) :
    readRecord offset (recordHeader payload ++ rest) =
      if payload.length > rest.length then .torn
      else if (crc32 (rest.take payload.length)).toNat ≠ (crc32 payload).toNat then
        if payload.length = rest.length then .torn
        else .corrupt (corrupt s!"outbox record at offset {offset} failed checksum")
      else .payload (rest.take payload.length) (recordFrame payload).length := by
  have hlen : (recordHeader payload ++ rest).length = recordHeaderLen + rest.length := by
    rw [length_append, length_recordHeader]
  have hmagic : ofLeBytes ((recordHeader payload ++ rest).take 4) = recordMagic := by
    rw [recordHeader, append_assoc, take_left' (length_leBytes 4 _)]
    exact ofLeBytes_leBytes (by norm_num [recordMagic])
  have hdrop4 : (recordHeader payload ++ rest).drop 4 =
      leBytes 4 payload.length ++ (leBytes 4 (crc32 payload).toNat ++ rest) := by
    rw [recordHeader, append_assoc, drop_left' (length_leBytes 4 _), append_assoc]
  have hpayloadLen : ofLeBytes (((recordHeader payload ++ rest).drop 4).take 4) =
      payload.length := by
    rw [hdrop4, take_left' (length_leBytes 4 _)]
    exact ofLeBytes_leBytes (lt_of_le_of_lt h.2 (by norm_num [maxRecordLen]))
  have hsum : ofLeBytes (((recordHeader payload ++ rest).drop 8).take 4) =
      (crc32 payload).toNat := by
    rw [show 8 = 4 + 4 from rfl, ← drop_drop, hdrop4, drop_left' (length_leBytes 4 _),
      take_left' (length_leBytes 4 _), ofLeBytes_checksum]
  have hdrop : (recordHeader payload ++ rest).drop recordHeaderLen = rest :=
    drop_left' (length_recordHeader payload)
  have hpos := h.length_pos
  have hmax := h.2
  unfold readRecord
  rw [if_neg (by omega), if_neg (not_not.2 hmagic)]
  simp only [hpayloadLen, hsum, hdrop, hlen, length_recordFrame]
  rw [if_neg (by omega)]
  simp only [gt_iff_lt, Nat.add_lt_add_iff_left, Nat.add_left_cancel_iff]

theorem readRecord_frame (h : RecordFits payload) (offset : ℕ) (rest : Bytes) :
    readRecord offset (recordFrame payload ++ rest) =
      .payload payload (recordFrame payload).length := by
  rw [recordFrame, append_assoc, readRecord_header h, if_neg (by simp), take_left,
    if_neg (by simp), recordFrame]

theorem readRecord_torn {tail : Bytes} (h : RecordFits payload) (offset : ℕ)
    (htail : tail <+: recordFrame payload) (hne : tail ≠ recordFrame payload) :
    readRecord offset tail = .torn := by
  have hlt : tail.length < recordHeaderLen + payload.length := by
    have hle := htail.length_le
    have hlen := length_recordFrame payload
    have : tail.length ≠ (recordFrame payload).length := fun heq => hne (htail.eq_of_length heq)
    omega
  by_cases hshort : tail.length < recordHeaderLen
  · rw [readRecord, if_pos hshort]
  -- the header is complete, so it announces the whole payload
  obtain ⟨rest, rfl⟩ : recordHeader payload <+: tail :=
    prefix_of_prefix_length_le (prefix_append _ _) htail
      (by rw [length_recordHeader]; omega)
  rw [length_append, length_recordHeader] at hlt
  rw [readRecord_header h, if_pos (by omega)]

theorem readRecord_bound {offset : ℕ} {rest : Bytes} {length : ℕ}
    (h : readRecord offset rest = .payload payload length) : 0 < length ∧ length ≤ rest.length := by
  unfold readRecord at h
  dsimp only at h
  split_ifs at h with h1 h2 h3 h4
  cases h
  unfold recordHeaderLen at *
  omega

/-- The record layout of the journal. -/
def recordFormat : Format PortError where
  frame := recordFrame
  Fits := RecordFits
  read := readRecord
  read_frame offset _ rest h := readRecord_frame h offset rest
  read_torn offset _ _ h _ htail hne := readRecord_torn h offset htail hne
  read_bound _ _ _ _ h := readRecord_bound h

/-! ## Contents -/

/-- `Recovered`, which is also what a `Journal` keeps in memory. Entries
    are filed under their own identifier, and every identifier is below the next one. -/
@[ext] structure Recovered where
  nextId : ℕ
  entries : ExtTreeMap ℕ OutboxEntry
  nextId_pos : 0 < nextId
  nextId_le : nextId ≤ u64Max
  keyed : ∀ (id : ℕ) (entry : OutboxEntry), entries[id]? = some entry → entry.id = id
  below : ∀ id ∈ entries, id < nextId

namespace Recovered

/-- The contents of a new journal. -/
def empty : Recovered where
  nextId := 1
  entries := ∅
  nextId_pos := Nat.one_pos
  nextId_le := by norm_num [u64Max]
  keyed id entry h := by simp at h
  below id h := by simp at h

/-- The entry is filed and the next identifier moves past its own. -/
def insert (recovered : Recovered) (entry : OutboxEntry) (h : entry.id + 1 ≤ u64Max) :
    Recovered where
  nextId := max recovered.nextId (entry.id + 1)
  entries := recovered.entries.insert entry.id entry
  nextId_pos := lt_of_lt_of_le recovered.nextId_pos (le_max_left _ _)
  nextId_le := max_le recovered.nextId_le h
  keyed id other hget := by
    rw [getElem?_insert_nat] at hget
    split_ifs at hget with hid
    · cases hget; exact hid
    · exact recovered.keyed id other hget
  below id hmem := by
    rw [ExtTreeMap.mem_insert, Nat.compare_eq_eq] at hmem
    rcases hmem with rfl | hmem
    · exact lt_of_lt_of_le (Nat.lt_succ_self _) (le_max_right _ _)
    · exact lt_of_lt_of_le (recovered.below id hmem) (le_max_left _ _)

/-- Without the entry. -/
def remove (recovered : Recovered) (id : ℕ) : Recovered where
  nextId := recovered.nextId
  entries := recovered.entries.erase id
  nextId_pos := recovered.nextId_pos
  nextId_le := recovered.nextId_le
  keyed other entry hget := by
    rw [getElem?_erase_nat] at hget
    split_ifs at hget
    exact recovered.keyed other entry hget
  below other hmem := recovered.below other (ExtTreeMap.mem_of_mem_erase hmem)

/-- `for id in &ids { entries.remove(id); }`. -/
def removeAll (recovered : Recovered) (ids : List ℕ) : Recovered := ids.foldl remove recovered

/-- A checkpoint moves the next identifier. -/
def advance (recovered : Recovered) (nextId : ℕ) (h : nextId ≤ u64Max) : Recovered where
  nextId := max recovered.nextId nextId
  entries := recovered.entries
  nextId_pos := lt_of_lt_of_le recovered.nextId_pos (le_max_left _ _)
  nextId_le := max_le recovered.nextId_le h
  keyed := recovered.keyed
  below id hmem := lt_of_lt_of_le (recovered.below id hmem) (le_max_left _ _)

@[simp] theorem removeAll_nextId (recovered : Recovered) (ids : List ℕ) :
    (recovered.removeAll ids).nextId = recovered.nextId := by
  induction ids generalizing recovered with
  | nil => rfl
  | cons id ids ih => exact ih (recovered.remove id)

@[simp] theorem removeAll_entries (recovered : Recovered) (ids : List ℕ) :
    (recovered.removeAll ids).entries = eraseAll recovered.entries ids := by
  induction ids generalizing recovered with
  | nil => rfl
  | cons id ids ih => exact ih (recovered.remove id)

end Recovered

/-! ## Payloads -/

/-- `encode_enqueue` (lines 533-552). -/
def enqueuePayload (entry : OutboxEntry) : Bytes :=
  opEnqueue :: (leBytes 8 entry.id ++ (leBytes 8 entry.message.createdAt.toNat ++
    (leBytes 4 entry.attempts.toNat ++ (leBytes 4 (strBytes entry.message.destination).length ++
      (leBytes 4 entry.message.payload.length ++
        (strBytes entry.message.destination ++ entry.message.payload))))))

/-- `encode_enqueue` (lines 533-552). -/
def encodeEnqueue (entry : OutboxEntry) : PortResult Bytes :=
  if (strBytes entry.message.destination).length > u32Max then
    .error (corrupt "outbox destination is too large")
  else if entry.message.payload.length > u32Max then
    .error (corrupt "outbox payload is too large")
  else do
    validateRecordSize (enqueuePayload entry)
    return enqueuePayload entry

/-- The fields of an acknowledgement. -/
def acknowledgePayload (ids : List ℕ) : Bytes :=
  opAcknowledge :: (leBytes 4 ids.length ++ ids.flatMap (leBytes 8))

/-- `encode_acknowledge` (lines 554-565). -/
def encodeAcknowledge (ids : List ℕ) : PortResult Bytes :=
  if ids.length > u32Max then .error (corrupt "too many outbox acknowledgements")
  else do
    validateRecordSize (acknowledgePayload ids)
    return acknowledgePayload ids

/-- `encode_checkpoint` (lines 567-572). -/
def encodeCheckpoint (nextId : ℕ) : Bytes := opCheckpoint :: leBytes 8 nextId

open ByteCursor

/-- An enqueue in `apply_record` (lines 475-531). -/
def readEnqueue : ByteCursor OutboxEntry := do
  let id ← readU64
  let createdAt ← readU64
  let attempts ← readU32
  let destinationLen ← readU32
  let payloadLen ← readU32
  let destination ← decodeDestination (← readBytes destinationLen.toNat)
  let messagePayload ← readBytes payloadLen.toNat
  finish
  return ⟨id.toNat, ⟨destination, messagePayload, createdAt⟩, attempts⟩

/-- The rest of an enqueue. -/
def applyEnqueue (recovered : Recovered) (entry : OutboxEntry) : PortResult Recovered :=
  if entry.id ∈ recovered.entries then
    throw (corrupt s!"duplicate outbox enqueue identifier {entry.id}")
  else if h : entry.id + 1 ≤ u64Max then return recovered.insert entry h
  else throw (corrupt "outbox identifier exhausted in journal")

/-- The loop of an acknowledgement. -/
def applyAcknowledge (recovered : Recovered) : ℕ → ByteCursor Recovered
  | 0 => return recovered
  | count + 1 => do
    let id ← readU64
    applyAcknowledge (recovered.remove id.toNat) count

/-- The rest of a checkpoint. -/
def applyCheckpoint (recovered : Recovered) (nextId : UInt64) : PortResult Recovered :=
  if nextId = 0 then throw (corrupt "outbox checkpoint contains identifier zero")
  else return recovered.advance nextId.toNat (Nat.le_pred_of_lt nextId.toNat_lt)

/-- The match of `apply_record` (lines 475-531) over the operation. -/
def applyOperation (recovered : Recovered) : ByteCursor Recovered := do
  let operation ← readU8
  if operation = opEnqueue then
    applyEnqueue recovered (← readEnqueue)
  else if operation = opAcknowledge then
    let recovered ← applyAcknowledge recovered (← readU32).toNat
    finish
    return recovered
  else if operation = opCheckpoint then
    let nextId ← readU64
    finish
    applyCheckpoint recovered nextId
  else throw (corrupt s!"unknown outbox journal operation {operation}")

/-- `apply_record` (lines 475-531). -/
def applyRecord (recovered : Recovered) (payload : Bytes) : PortResult Recovered :=
  (applyOperation recovered).run' payload

/-! ## Recovery -/

/-- `write_file_header` (lines 617-627). -/
def fileHeader : Bytes := fileMagic ++ (leBytes 4 fileVersion ++ List.replicate 4 0)

/-- The records of a compacted journal: the next identifier, then the live entries. -/
def compactedRecords (contents : Recovered) : PortResult (List Bytes) := do
  let entries ← (values contents.entries).mapM encodeEnqueue
  return encodeCheckpoint contents.nextId :: entries

/-- `recover` (lines 370-473): the contents and the file it leaves. A recovery that fails leaves the
    file as it was. -/
def recover (file : Bytes) : PortResult (Recovered × Bytes) :=
  if file.length = 0 then .ok (Recovered.empty, fileHeader)
  else if file.length < fileHeaderLen then
    .error (corrupt "outbox journal has an incomplete file header")
  else if file.take 8 ≠ fileMagic then .error (corrupt "outbox journal magic does not match")
  else
    let version := ofLeBytes ((file.drop 8).take 4)
    if version ≠ fileVersion then
      .error (corrupt s!"unsupported outbox journal version {version}")
    else
      match recordFormat.scan applyRecord Recovered.empty fileHeaderLen
          (file.drop fileHeaderLen) with
      | .error e => .error e
      | .ok (recovered, validLen) => .ok (recovered, file.take validLen)

end AetherEdge.Outbox
