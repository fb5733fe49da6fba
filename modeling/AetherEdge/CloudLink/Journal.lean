import AetherEdge.Common.Binary
import AetherEdge.Common.Framing
import AetherEdge.CloudLink.Spool

/-!
# The journal of the file spool

Model of the on-disk format and of recovery in
`libs/aether-store-local/src/file_cloudlink_spool.rs`. A journal is an eight-byte header
followed by frames, each a length, a serialized entry and its checksum. Serialization is
`serde_json`, which is a parameter (`JournalCodec`).

* `journalFormat`: the frame layout with its reader;
* `applyEntry`: replay of one entry;
* `recover`: the recovery of a journal file.
-/

namespace AetherEdge.CloudLink

open OrderedMap Framing List
open Std (ExtTreeMap)

/-- `MAGIC` (line 21). -/
def journalMagic : Bytes := strBytes "AETHCL2\n"

/-- Line 22. -/
def maxJournalRecordBytes : ℕ := 2 * 1024 * 1024

/-- Line 23. -/
def compactAfterMutations : ℕ := 256

/-- Lines 28-63. -/
inductive JournalEntry where
  | checkpoint (streamId : String) (streamEpoch nextPosition capacity : ℕ)
      (lastAck : Option CloudLinkDurableAck) (lastAcknowledgedPosition : ℕ)
      (dataLoss : Option CloudLinkDataLossEvidence)
  | record (record : CloudLinkRecord)
  | enqueued (record : CloudLinkRecord) (nextPosition : ℕ)
      (dataLoss : Option CloudLinkDataLossEvidence)
  | offered (identity : CloudLinkRecordIdentity) (session : CloudLinkSessionBinding)
  | transportPublished (identity : CloudLinkRecordIdentity) (session : CloudLinkSessionBinding)
  | acknowledged (ack : CloudLinkDurableAck)
  | rotated (streamEpoch : ℕ)
  | capacity (capacity : ℕ)
  deriving DecidableEq, Repr

/-- `serde_json::to_vec` and `serde_json::from_slice` at `JournalEntry`; an error is its
    rendered text. -/
structure JournalCodec where
  toVec : JournalEntry → Except String Bytes
  fromSlice : Bytes → Except String JournalEntry

/-- What is serialized is read back. -/
def JournalCodec.RoundTrips (codec : JournalCodec) : Prop :=
  ∀ entry bytes, codec.toVec entry = .ok bytes → codec.fromSlice bytes = .ok entry

/-! ## Errors -/

/-- `storage_error` (lines 718-726). -/
def storageError (path action source : String) : CloudLinkSpoolError :=
  spoolError .storage s!"cannot {action} CloudLink spool journal {path}: {source}"

/-- `corrupt` (lines 728-736). -/
def corrupt (path message : String) : CloudLinkSpoolError :=
  spoolError .corruptJournal s!"corrupt CloudLink spool journal {path}: {message}"

/-- `.map_err(|error| corrupt(path, &error.to_string()))`; an error displays as its message. -/
def asCorrupt {α : Type} (path : String) : Except CloudLinkSpoolError α → Except CloudLinkSpoolError α
  | .error e => .error (corrupt path e.message)
  | .ok a => .ok a

/-! ## Frames -/

/-- The bytes `write_entry` (lines 361-389) writes for a serialized entry. -/
def journalFrame (payload : Bytes) : Bytes :=
  leBytes 4 payload.length ++ (payload ++ leBytes 4 (crc32 payload).toNat)

/-- One turn of the loop of `recover` (lines 391-464) up to the checksum. -/
def readJournalFrame (path : String) (rest : Bytes) : Read CloudLinkSpoolError :=
  if rest.length < 4 then .torn
  else
    let length := ofLeBytes (rest.take 4)
    if length = 0 ∨ length > maxJournalRecordBytes then
      .corrupt (corrupt path "journal mutation exceeds safety bound")
    else if rest.length - 4 < length + 4 then .torn
    else
      let payload := (rest.drop 4).take length
      let crcBytes := (rest.drop (4 + length)).take 4
      if (crc32 payload).toNat ≠ ofLeBytes crcBytes then
        .corrupt (corrupt path "journal mutation checksum mismatch")
      else .payload payload (length + 8)

/-- The payloads `write_entry` accepts. -/
def JournalFits (payload : Bytes) : Prop :=
  payload ≠ [] ∧ payload.length ≤ maxJournalRecordBytes

theorem length_journalFrame (payload : Bytes) :
    (journalFrame payload).length = payload.length + 8 := by
  simp only [journalFrame, length_append, length_leBytes]
  omega

variable {payload : Bytes}

theorem ofLeBytes_length (h : JournalFits payload) :
    ofLeBytes (leBytes 4 payload.length) = payload.length :=
  ofLeBytes_leBytes (lt_of_le_of_lt h.2 (by norm_num [maxJournalRecordBytes]))

theorem readJournalFrame_frame (path : String) (h : JournalFits payload) (rest : Bytes) :
    readJournalFrame path (journalFrame payload ++ rest) =
      .payload payload (journalFrame payload).length := by
  have hlen := length_journalFrame payload
  have htotal : (journalFrame payload ++ rest).length = payload.length + 8 + rest.length := by
    rw [length_append, hlen]
  have htake : (journalFrame payload ++ rest).take 4 = leBytes 4 payload.length := by
    rw [journalFrame, append_assoc, take_left' (length_leBytes 4 _)]
  have hdrop : (journalFrame payload ++ rest).drop 4 =
      payload ++ (leBytes 4 (crc32 payload).toNat ++ rest) := by
    rw [journalFrame, append_assoc, drop_left' (length_leBytes 4 _), append_assoc]
  have hcrc : ((journalFrame payload ++ rest).drop (4 + payload.length)).take 4 =
      leBytes 4 (crc32 payload).toNat := by
    rw [← drop_drop, hdrop, drop_left, take_left' (length_leBytes 4 _)]
  have hpos : payload.length ≠ 0 := fun h0 => h.1 (eq_nil_of_length_eq_zero h0)
  have hmax := h.2
  unfold readJournalFrame
  rw [if_neg (by omega)]
  simp only [htake, ofLeBytes_length h, hcrc, ofLeBytes_checksum, hdrop, take_left]
  rw [if_neg (by omega), if_neg (by omega), if_neg (by simp), hlen]

theorem readJournalFrame_torn (path : String) {tail : Bytes} (h : JournalFits payload)
    (htail : tail <+: journalFrame payload) (hne : tail ≠ journalFrame payload) :
    readJournalFrame path tail = .torn := by
  have hlen := length_journalFrame payload
  have hlt : tail.length < payload.length + 8 := by
    have hle := htail.length_le
    have : tail.length ≠ (journalFrame payload).length := fun heq => hne (htail.eq_of_length heq)
    omega
  unfold readJournalFrame
  split_ifs with h4
  · rfl
  -- the length field is complete, so it is the one of the frame
  have htake : tail.take 4 = leBytes 4 payload.length := by
    have hpre : tail.take 4 <+: journalFrame payload := (List.take_prefix 4 tail).trans htail
    have hlen4 : (tail.take 4).length = 4 := by rw [length_take]; omega
    rw [prefix_iff_eq_take.1 hpre, hlen4, journalFrame,
      take_left' (length_leBytes 4 _)]
  have hpos : payload.length ≠ 0 := fun h0 => h.1 (eq_nil_of_length_eq_zero h0)
  have hmax := h.2
  simp only [htake, ofLeBytes_length h]
  rw [if_neg (by omega), if_pos (by omega)]

theorem readJournalFrame_bound {path : String} {rest : Bytes} {length : ℕ}
    (h : readJournalFrame path rest = .payload payload length) :
    0 < length ∧ length ≤ rest.length := by
  unfold readJournalFrame at h
  dsimp only at h
  split_ifs at h with h4 hlen htorn hcrc
  cases h
  omega

/-- The frames of the journal. -/
def journalFormat (path : String) : Format CloudLinkSpoolError where
  frame := journalFrame
  Fits := JournalFits
  read _ := readJournalFrame path
  read_frame _ _ rest h := readJournalFrame_frame path h rest
  read_torn _ _ _ h _ htail hne := readJournalFrame_torn path h htail hne
  read_bound _ _ _ _ h := readJournalFrame_bound h

/-- The serialized entry `write_entry` (lines 361-389) puts into a frame. -/
def entryPayload (codec : JournalCodec) (entry : JournalEntry) : Except CloudLinkSpoolError Bytes :=
  match codec.toVec entry with
  | .error source =>
    .error (spoolError .storage s!"cannot encode CloudLink spool journal mutation: {source}")
  | .ok payload =>
    if payload.isEmpty || payload.length > maxJournalRecordBytes then
      .error (spoolError .storage "CloudLink spool journal mutation exceeds the 2 MiB safety bound")
    else if payload.length > 2 ^ 32 - 1 then
      .error (spoolError .storage "CloudLink spool journal mutation length exceeds uint32")
    else .ok payload

theorem entryPayload_ok {codec : JournalCodec} {entry : JournalEntry}
    (h : entryPayload codec entry = .ok payload) :
    codec.toVec entry = .ok payload ∧ JournalFits payload := by
  unfold entryPayload at h
  split at h
  · cases h
  next bytes hvec =>
  split_ifs at h with h1 h2
  cases h
  simp only [Bool.or_eq_true, List.isEmpty_iff, decide_eq_true_eq, not_or] at h1
  exact ⟨hvec, h1.1, by omega⟩

/-! ## Replay of one entry -/

/-- The state the loop of `recover` carries. -/
structure Recovery where
  state : Option CloudLinkSpoolState
  mutations : ℕ
  mutationsStarted : Bool

/-- `validate_persisted_record` (lines 618-645). -/
def validatePersistedRecord (path : String) (state : CloudLinkSpoolState)
    (record : CloudLinkRecord) : Except CloudLinkSpoolError Unit :=
  if record.identity.streamId = state.streamId ∧ record.identity.streamEpoch = state.streamEpoch ∧
      record.identity.position > 0 ∧ strLen record.batchId ≠ 0 ∧ strLen record.batchId ≤ 128 ∧
      digestValid record.digest = true ∧ record.payload ≠ [] ∧
      record.payload.length ≤ maxSpoolPayloadBytes ∧
      record.expiresAt.all (· > record.createdAt) = true then .ok ()
  else .error (corrupt path "persisted CloudLink record is invalid")

/-- `restore_checkpoint_record` (lines 569-583). -/
def restoreCheckpointRecord (path : String) (state : CloudLinkSpoolState)
    (record : CloudLinkRecord) : Except CloudLinkSpoolError CloudLinkSpoolState :=
  match validatePersistedRecord path state record with
  | .error e => .error e
  | .ok () =>
    let position := record.identity.position
    if position ≥ state.nextPosition ∨ position ∈ state.records then
      .error (corrupt path "checkpoint record position is inconsistent")
    else
      let records := state.records.insert position record
      if records.size > state.capacity then
        .error (corrupt path "checkpoint exceeds configured capacity")
      else .ok { state with records := records }

/-- The eviction inside `apply_enqueued` (lines 585-616). -/
def replayEviction (path : String) (state : CloudLinkSpoolState) :
    Except CloudLinkSpoolError CloudLinkSpoolState :=
  if state.records.size = state.capacity then
    match firstKey state.records with
    | none => .error (corrupt path "capacity eviction has no retained record")
    | some earliest => .ok { state with records := state.records.erase earliest }
  else .ok state

/-- `apply_enqueued` (lines 585-616). -/
def applyEnqueued (path : String) (state : CloudLinkSpoolState) (record : CloudLinkRecord)
    (nextPosition : ℕ) (dataLoss : Option CloudLinkDataLossEvidence) :
    Except CloudLinkSpoolError CloudLinkSpoolState :=
  match validatePersistedRecord path state record with
  | .error e => .error e
  | .ok () =>
    if record.state ≠ .queued ∨ record.offeredSession.isSome ∨
        record.identity.position ≠ state.nextPosition ∨
        nextPosition ≠ (checkedAdd state.nextPosition 1).getD 0 then
      .error (corrupt path "enqueue mutation position or state is inconsistent")
    else
      match replayEviction path state with
      | .error e => .error e
      | .ok state =>
        .ok { state with
          records := state.records.insert record.identity.position record
          nextPosition := nextPosition
          dataLoss := dataLoss }

/-- The effect of a mutation entry on the active state (the arms of `apply_entry` after
    `active_state`). -/
def applyMutation (path : String) (state : CloudLinkSpoolState) :
    JournalEntry → Except CloudLinkSpoolError CloudLinkSpoolState
  | .enqueued record nextPosition dataLoss => applyEnqueued path state record nextPosition dataLoss
  | .offered identity session =>
    match asCorrupt path (state.markOffered identity session).1 with
    | .error e => .error e
    | .ok () => .ok (state.markOffered identity session).2
  | .transportPublished identity session =>
    match asCorrupt path (state.markTransportPublished identity session).1 with
    | .error e => .error e
    | .ok () => .ok (state.markTransportPublished identity session).2
  | .acknowledged ack =>
    match asCorrupt path (state.acknowledge ack).1 with
    | .error e => .error e
    | .ok _ => .ok (state.acknowledge ack).2
  | .rotated streamEpoch =>
    match asCorrupt path state.rotateStreamEpoch.1 with
    | .error e => .error e
    | .ok recoveredEpoch =>
      if recoveredEpoch ≠ streamEpoch then
        .error (corrupt path "stream epoch mutation is inconsistent")
      else .ok state.rotateStreamEpoch.2
  | .capacity capacity =>
    match asCorrupt path (state.validateOpen state.streamId capacity).1 with
    | .error e => .error e
    | .ok _ => .ok (state.validateOpen state.streamId capacity).2
  | .checkpoint .. | .record _ => .ok state

/-- `apply_entry` (lines 466-558). -/
def applyEntry (path : String) (recovery : Recovery) :
    JournalEntry → Except CloudLinkSpoolError Recovery
  | .checkpoint streamId streamEpoch nextPosition capacity lastAck lastAcknowledgedPosition
      dataLoss =>
    if recovery.state.isSome then
      .error (corrupt path "journal contains more than one checkpoint")
    else
      match asCorrupt path (CloudLinkSpoolState.new streamId capacity) with
      | .error e => .error e
      | .ok recovered =>
        .ok { recovery with
          state := some { recovered with
            streamEpoch := streamEpoch
            nextPosition := nextPosition
            lastAck := lastAck
            lastAcknowledgedPosition := lastAcknowledgedPosition
            dataLoss := dataLoss } }
  | .record record =>
    if recovery.mutationsStarted then
      .error (corrupt path "checkpoint record appears after a mutation")
    else
      match recovery.state with
      | none => .error (corrupt path "journal mutation precedes checkpoint")
      | some state =>
        match restoreCheckpointRecord path state record with
        | .error e => .error e
        | .ok state => .ok { recovery with state := some state }
  | entry =>
    match recovery.state with
    | none => .error (corrupt path "journal mutation precedes checkpoint")
    | some state =>
      match applyMutation path state entry with
      | .error e => .error e
      | .ok state =>
        .ok ⟨some state, saturatingAdd recovery.mutations 1, true⟩

/-- Decoding and replaying one payload. -/
def applyPayload (codec : JournalCodec) (path : String) (recovery : Recovery) (payload : Bytes) :
    Except CloudLinkSpoolError Recovery :=
  match codec.fromSlice payload with
  | .error source => .error (corrupt path s!"invalid CloudLink journal mutation: {source}")
  | .ok entry => applyEntry path recovery entry

/-! ## Recovery -/

/-- The acknowledgement metadata check of `validate_recovered_state` (lines 647-693). -/
def ackMetadataValid (state : CloudLinkSpoolState) : Bool :=
  match state.lastAck with
  | some ack => ack.streamId == state.streamId && ack.streamEpoch == state.streamEpoch &&
      ack.acknowledgedPosition == state.lastAcknowledgedPosition
  | none => state.lastAcknowledgedPosition == 0

/-- The evidence check of `validate_recovered_state` (lines 647-693), as the condition under which
    it fails. -/
def lossMetadataInvalid (state : CloudLinkSpoolState) (loss : CloudLinkDataLossEvidence) : Bool :=
  loss.streamId != state.streamId || loss.streamEpoch != state.streamEpoch ||
    loss.firstLostPosition == 0 || loss.firstLostPosition > loss.lastLostPosition ||
    loss.earliestRetainedPosition ≤ loss.lastLostPosition

/-- `validate_recovered_state` (lines 647-693). -/
def validateRecoveredState (path : String) (state : CloudLinkSpoolState) :
    Except CloudLinkSpoolError Unit :=
  if state.streamEpoch = 0 ∨ state.nextPosition = 0 ∨ state.capacity = 0 ∨
      state.records.size > state.capacity ∨
      state.lastAcknowledgedPosition ≥ state.nextPosition then
    .error (corrupt path "recovered CloudLink cursor metadata is invalid")
  else if !ackMetadataValid state then
    .error (corrupt path "recovered durable ACK metadata is inconsistent")
  else if state.records.keys.any fun position =>
      position ≤ state.lastAcknowledgedPosition || position ≥ state.nextPosition then
    .error (corrupt path "recovered record range is inconsistent")
  else if state.dataLoss.any (lossMetadataInvalid state) then
    .error (corrupt path "recovered data-loss evidence is inconsistent")
  else .ok ()

/-- `recover` (lines 391-464): its result and the contents of the file it leaves. A torn tail is cut
    off when it is met, before the recovered state is checked. -/
def recover (codec : JournalCodec) (path : String) (file : Bytes) :
    Except CloudLinkSpoolError (CloudLinkSpoolState × ℕ) × Bytes :=
  if file.length < journalMagic.length then
    (.error (storageError path "read journal header" "failed to fill whole buffer"), file)
  else if file.take journalMagic.length ≠ journalMagic then
    (.error (corrupt path "invalid CloudLink spool journal header"), file)
  else
    match (journalFormat path).scan (applyPayload codec path) ⟨none, 0, false⟩ journalMagic.length
        (file.drop journalMagic.length) with
    | .error e => (.error e, file)
    | .ok (recovery, committed) =>
      let file := file.take committed
      match recovery.state with
      | none => (.error (corrupt path "journal contains no checkpoint"), file)
      | some state =>
        match validateRecoveredState path state with
        | .error e => (.error e, file)
        | .ok () => (.ok (state, recovery.mutations), file)

/-! ## Compaction -/

/-- `checkpoint` (lines 291-301). -/
def checkpoint (state : CloudLinkSpoolState) : JournalEntry :=
  .checkpoint state.streamId state.streamEpoch state.nextPosition state.capacity state.lastAck
    state.lastAcknowledgedPosition state.dataLoss

/-- The entries `write_compacted_journal` (lines 267-289) writes. -/
def compactedEntries (state : CloudLinkSpoolState) : List JournalEntry :=
  checkpoint state :: (values state.records).map .record

/-- The magic and a frame for each payload. -/
def journalFile (path : String) (payloads : List Bytes) : Bytes :=
  journalMagic ++ (journalFormat path).log payloads

/-- The contents `write_compacted_journal` (lines 267-289) produces when every write succeeds; the
    first entry that cannot be encoded fails it. -/
def compactedJournal (codec : JournalCodec) (path : String) (state : CloudLinkSpoolState) :
    Except CloudLinkSpoolError Bytes :=
  match (compactedEntries state).mapM (entryPayload codec) with
  | .error e => .error e
  | .ok payloads => .ok (journalFile path payloads)

end AetherEdge.CloudLink
