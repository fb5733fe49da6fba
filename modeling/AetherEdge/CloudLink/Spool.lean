import AetherEdge.Common.OrderedMap
import AetherEdge.Common.Transition
import AetherEdge.CloudLink.Types

/-!
# The CloudLink spool state machine

Model of `CloudLinkSpoolState` (`libs/aether-store-local/src/cloudlink_spool.rs`), the
transition logic shared by the in-memory and the file spool. A method on `&mut self` is a
function returning its `Result` together with the state it leaves behind; an early `?`
keeps every field the method had already written.

`SpoolOp` and `step` put the mutating operations together into a transition function.
-/

namespace AetherEdge.CloudLink

open OrderedMap
open Std (ExtTreeMap)

/-- Line 12. -/
def maxSpoolPayloadBytes : ℕ := 256 * 1024

/-- Line 13. -/
def maxSpoolRecords : ℕ := 65536

/-! ## Validation -/

/-- `byte.is_ascii_alphanumeric() || matches!(byte, b'.' | b'_' | b':' | b'-')`. -/
def transportSafe (byte : UInt8) : Bool :=
  isAsciiAlphanumeric byte || byte == 46 || byte == 95 || byte == 58 || byte == 45

/-- `valid_identifier` (lines 384-390). -/
def validIdentifier (value : String) (maximum : ℕ) : Bool :=
  !(strBytes value).isEmpty && strLen value ≤ maximum && (strBytes value).all transportSafe

/-- `digest.len() == 71 && digest.starts_with("sha256:") && digest[7..].bytes().all(..)`, the
    digest check of `validate_enqueue` and `validate_persisted_record`. -/
def digestValid (digest : String) : Bool :=
  strLen digest == 71 && (strBytes "sha256:").isPrefixOf (strBytes digest) &&
    ((strBytes digest).drop 7).all fun byte => isAsciiHexdigit byte && !isAsciiUppercase byte

/-- `error` (lines 429-434). -/
def spoolError (reason : CloudLinkSpoolErrorReason) (message : String) : CloudLinkSpoolError :=
  ⟨reason, message⟩

/-- `validate_stream_id` (lines 362-371). -/
def validateStreamId (streamId : String) : Except CloudLinkSpoolError Unit :=
  if validIdentifier streamId 128 then .ok ()
  else .error (spoolError .invalidData
    "CloudLink stream ID must be a bounded transport-safe identifier")

/-- `validate_session` (lines 373-382). -/
def validateSession (session : CloudLinkSessionBinding) : Except CloudLinkSpoolError Unit :=
  if session.sessionEpoch > 0 ∧ validIdentifier session.sessionId 128 then .ok ()
  else .error (spoolError .invalidData
    "CloudLink session binding must contain a safe ID and positive epoch")

/-- `validate_enqueue` (lines 392-427). -/
def validateEnqueue (input : CloudLinkEnqueue) : Except CloudLinkSpoolError Unit :=
  if !validIdentifier input.batchId 128 then
    .error (spoolError .invalidData
      "CloudLink batch ID must be a bounded transport-safe identifier")
  else if !digestValid input.digest then
    .error (spoolError .invalidData
      "CloudLink digest must be sha256 followed by 64 lowercase hex digits")
  else if input.payload.isEmpty || input.payload.length > maxSpoolPayloadBytes then
    .error (spoolError .invalidData "CloudLink payload is empty or exceeds the 256 KiB bound")
  else if input.expiresAt.any (· ≤ input.createdAt) then
    .error (spoolError .invalidData "CloudLink expiry must be after creation time")
  else .ok ()

theorem validateEnqueue_ok {input : CloudLinkEnqueue} :
    validateEnqueue input = .ok () ↔
      validIdentifier input.batchId 128 = true ∧ digestValid input.digest = true ∧
      input.payload ≠ [] ∧ input.payload.length ≤ maxSpoolPayloadBytes ∧
      ∀ expires, input.expiresAt = some expires → input.createdAt < expires := by
  unfold validateEnqueue
  split_ifs with h1 h2 h3 h4
  · simp_all
  · simp_all
  · simp only [false_iff]
    rintro ⟨-, -, hne, hle, -⟩
    simp only [Bool.or_eq_true, List.isEmpty_iff, decide_eq_true_eq] at h3
    rcases h3 with h3 | h3
    · exact hne h3
    · omega
  · simp only [false_iff]
    rintro ⟨-, -, -, -, hexp⟩
    rw [Option.any_eq_true_iff_get] at h4
    obtain ⟨hs, h4⟩ := h4
    have := hexp _ (Option.some_get hs).symm
    rw [decide_eq_true_eq] at h4
    exact absurd h4 (UInt64.not_le.2 this)
  · simp only [true_iff]
    simp only [Bool.or_eq_true, List.isEmpty_iff, decide_eq_true_eq, not_or] at h3
    refine ⟨by simpa using h1, by simpa using h2, h3.1, by omega, fun expires he => ?_⟩
    by_contra hle
    exact h4 (by simp [he, UInt64.not_lt.1 hle])

/-! ## State and construction -/

/-- Lines 16-25. -/
structure CloudLinkSpoolState where
  streamId : String
  streamEpoch : ℕ
  nextPosition : ℕ
  capacity : ℕ
  records : ExtTreeMap ℕ CloudLinkRecord
  lastAck : Option CloudLinkDurableAck
  lastAcknowledgedPosition : ℕ
  dataLoss : Option CloudLinkDataLossEvidence
  deriving DecidableEq

namespace CloudLinkSpoolState

/-- The state `CloudLinkSpoolState::new` (lines 28-50) builds. -/
def initial (streamId : String) (capacity : ℕ) : CloudLinkSpoolState where
  streamId := streamId
  streamEpoch := 1
  nextPosition := 1
  capacity := capacity
  records := ∅
  lastAck := none
  lastAcknowledgedPosition := 0
  dataLoss := none

/-- `new` (lines 28-50). -/
def new (streamId : String) (capacity : ℕ) : Except CloudLinkSpoolError CloudLinkSpoolState :=
  match validateStreamId streamId with
  | .error e => .error e
  | .ok () =>
    if capacity = 0 ∨ capacity > maxSpoolRecords then
      .error (spoolError .invalidData
        "CloudLink spool capacity must be between 1 and 65536 records")
    else .ok (initial streamId capacity)

theorem new_ok {streamId : String} {capacity : ℕ} {state : CloudLinkSpoolState} :
    new streamId capacity = .ok state ↔
      validIdentifier streamId 128 = true ∧ 0 < capacity ∧ capacity ≤ maxSpoolRecords ∧
        state = initial streamId capacity := by
  unfold new validateStreamId
  by_cases hid : validIdentifier streamId 128 = true
  · simp only [hid, ↓reduceIte, true_and]
    split_ifs with hcap
    · simp only [false_iff]; omega
    · simp only [Except.ok.injEq, eq_comm (a := state)]
      exact ⟨fun h => ⟨by omega, by omega, h⟩, fun h => h.2.2⟩
  · simp [hid]

/-- `self.records.keys().next().copied().unwrap_or(self.next_position)`. -/
def earliest (state : CloudLinkSpoolState) : ℕ :=
  (firstKey state.records).getD state.nextPosition

/-- `validate_open` (lines 52-76). -/
def validateOpen (state : CloudLinkSpoolState) (streamId : String) (capacity : ℕ) :
    Except CloudLinkSpoolError Bool × CloudLinkSpoolState :=
  match validateStreamId streamId with
  | .error e => (.error e, state)
  | .ok () =>
    if state.streamId ≠ streamId then
      (.error (spoolError .wrongStream
        s!"CloudLink spool belongs to stream {debugStr state.streamId}, not {debugStr streamId}"),
        state)
    else if capacity = 0 ∨ capacity > maxSpoolRecords ∨ capacity < state.records.size then
      (.error (spoolError .invalidData
        "configured CloudLink spool capacity is smaller than retained state"), state)
    else (.ok (decide (state.capacity ≠ capacity)), { state with capacity })

/-! ## Enqueue -/

/-- The retained record with this batch identity, if any. -/
def findBatch (state : CloudLinkSpoolState) (batchId : String) : Option CloudLinkRecord :=
  (values state.records).find? fun record => record.batchId == batchId

/-- The eviction that makes room in a full spool. -/
def evict (state : CloudLinkSpoolState) :
    Except CloudLinkSpoolError (Option ℕ) × CloudLinkSpoolState :=
  if state.records.size = state.capacity then
    match firstKey state.records with
    | none =>
      (.error (spoolError .storage "CloudLink spool capacity accounting is inconsistent"), state)
    | some position => (.ok (some position), { state with records := state.records.erase position })
  else (.ok none, state)

/-- Evidence for one lost position. -/
def freshEvidence (state : CloudLinkSpoolState) (lostPosition : ℕ) (recordedAt : UInt64) :
    CloudLinkDataLossEvidence where
  streamId := state.streamId
  streamEpoch := state.streamEpoch
  firstLostPosition := lostPosition
  lastLostPosition := lostPosition
  earliestRetainedPosition := state.earliest
  reason := "capacity-overflow"
  recordedAt := recordedAt

/-- The loss evidence written for an evicted position. -/
def recordLoss (state : CloudLinkSpoolState) (lostPosition : ℕ) (recordedAt : UInt64) :
    CloudLinkSpoolState :=
  match state.dataLoss with
  | some evidence =>
    if evidence.streamEpoch = state.streamEpoch ∧
        checkedAdd evidence.lastLostPosition 1 = some lostPosition then
      { state with dataLoss := some (evidence.extendOverflow lostPosition state.earliest) }
    else { state with dataLoss := some (state.freshEvidence lostPosition recordedAt) }
  | none => { state with dataLoss := some (state.freshEvidence lostPosition recordedAt) }

/-- `enqueue` (lines 78-159). The eviction happens before the position counter is advanced, so a
    failing `checked_add` returns with the evicted record already gone. -/
def enqueue (state : CloudLinkSpoolState) (input : CloudLinkEnqueue) :
    Except CloudLinkSpoolError CloudLinkRecord × CloudLinkSpoolState :=
  match validateEnqueue input with
  | .error e => (.error e, state)
  | .ok () =>
    match state.findBatch input.batchId with
    | some existing =>
      if existing.digest = input.digest ∧ existing.messageKind = input.messageKind ∧
          existing.payload = input.payload then (.ok existing, state)
      else
        (.error (spoolError .conflictingIdentity
          s!"CloudLink batch identity {debugStr input.batchId} was reused with different business content"),
          state)
    | none =>
      match state.evict with
      | (.error e, state) => (.error e, state)
      | (.ok evicted, state) =>
        let position := state.nextPosition
        match checkedAdd state.nextPosition 1 with
        | none =>
          (.error (spoolError .storage "CloudLink stream position exhausted uint64"), state)
        | some nextPosition =>
          let identity : CloudLinkRecordIdentity := ⟨state.streamId, state.streamEpoch, position⟩
          let record := CloudLinkRecord.fromEnqueue identity input
          let state := { state with nextPosition, records := state.records.insert position record }
          match evicted with
          | some lostPosition => (.ok record, state.recordLoss lostPosition input.createdAt)
          | none => (.ok record, state)

/-! ## Replay -/

/-- `replay_from` (lines 161-212). -/
def replayFrom (state : CloudLinkSpoolState) (requestedPosition limit : ℕ) :
    Except CloudLinkSpoolError CloudLinkReplayWindow :=
  if requestedPosition = 0 ∨ limit = 0 then
    .error (spoolError .invalidData "CloudLink replay position and limit must be greater than zero")
  else if requestedPosition > state.nextPosition then
    .error (spoolError .positionGap
      s!"CloudLink replay position {requestedPosition} is beyond next position {state.nextPosition}")
  else
    let earliest := state.earliest
    let gap := spoolError .positionGap
      s!"CloudLink replay position {requestedPosition} precedes retained position {earliest} without matching loss evidence"
    if requestedPosition < earliest then
      match state.dataLoss with
      | some evidence =>
        if evidence.firstLostPosition ≤ requestedPosition ∧
            requestedPosition ≤ evidence.lastLostPosition then .ok ⟨[], some evidence⟩
        else .error gap
      | none => .error gap
    else .ok ⟨((rangeFrom state.records requestedPosition).take limit).map Prod.snd, none⟩

/-! ## Delivery bookkeeping -/

/-- `record_mut` (lines 343-359): the record, which the caller then updates in place. -/
def recordMut (state : CloudLinkSpoolState) (identity : CloudLinkRecordIdentity) :
    Except CloudLinkSpoolError CloudLinkRecord :=
  if identity.streamId ≠ state.streamId ∨ identity.streamEpoch ≠ state.streamEpoch then
    .error (spoolError .wrongStream "CloudLink record identity does not match the active spool")
  else
    match state.records[identity.position]? with
    | none => .error (spoolError .positionGap "CloudLink record position is not retained")
    | some record => .ok record

/-- Writing back through the reference `record_mut` returned. -/
def writeRecord (state : CloudLinkSpoolState) (position : ℕ) (record : CloudLinkRecord) :
    CloudLinkSpoolState :=
  { state with records := state.records.insert position record }

/-- `mark_offered` (lines 214-222). -/
def markOffered (state : CloudLinkSpoolState) (identity : CloudLinkRecordIdentity)
    (session : CloudLinkSessionBinding) : Except CloudLinkSpoolError Unit × CloudLinkSpoolState :=
  match validateSession session with
  | .error e => (.error e, state)
  | .ok () =>
    match state.recordMut identity with
    | .error e => (.error e, state)
    | .ok record => (.ok (), state.writeRecord identity.position (record.setOffered session))

/-- `mark_transport_published` (lines 224-239). -/
def markTransportPublished (state : CloudLinkSpoolState) (identity : CloudLinkRecordIdentity)
    (session : CloudLinkSessionBinding) : Except CloudLinkSpoolError Unit × CloudLinkSpoolState :=
  match validateSession session with
  | .error e => (.error e, state)
  | .ok () =>
    match state.recordMut identity with
    | .error e => (.error e, state)
    | .ok record =>
      if record.offeredSession ≠ some session then
        (.error (spoolError .staleSession
          "transport publication belongs to a session other than the current offer"), state)
      else
        (.ok (), state.writeRecord identity.position (record.setTransportPublished session))

/-! ## Acknowledgement and rotation -/

/-- The checks of `acknowledge` (lines 241-302) on the receipt and the terminal record, after the
    duplicate test. -/
def checkAck (state : CloudLinkSpoolState) (ack : CloudLinkDurableAck) :
    Except CloudLinkSpoolError Unit :=
  if ack.streamId ≠ state.streamId ∨ ack.streamEpoch ≠ state.streamEpoch then
    .error (spoolError .wrongStream "durable ACK stream identity does not match the active spool")
  else if ack.acknowledgedPosition ≤ state.lastAcknowledgedPosition then
    .error (spoolError .conflictingIdentity
      "durable ACK reuses an acknowledged position with another receipt")
  else if !validIdentifier ack.receiptId 128 then
    .error (spoolError .invalidData
      "durable ACK receipt identity must be a bounded transport-safe identifier")
  else
    match state.records[ack.acknowledgedPosition]? with
    | none =>
      .error (spoolError .positionGap "durable ACK terminal position is not retained")
    | some record =>
      if record.offeredSession ≠ some ack.session then
        .error (spoolError .staleSession
          "durable ACK session does not match the record's current offer")
      else if record.batchId ≠ ack.batchId ∨ record.digest ≠ ack.digest then
        .error (spoolError .conflictingIdentity
          "durable ACK batch identity or digest conflicts with retained content")
      else .ok ()

/-- The state after a receipt has been accepted. -/
def applyAck (state : CloudLinkSpoolState) (ack : CloudLinkDurableAck) : CloudLinkSpoolState :=
  let positions := rangeTo state.records ack.acknowledgedPosition
  { state with
    records := eraseAll state.records positions
    lastAcknowledgedPosition := ack.acknowledgedPosition
    lastAck := some ack }

/-- `acknowledge` (lines 241-302). -/
def acknowledge (state : CloudLinkSpoolState) (ack : CloudLinkDurableAck) :
    Except CloudLinkSpoolError DurableAckOutcome × CloudLinkSpoolState :=
  match validateSession ack.session with
  | .error e => (.error e, state)
  | .ok () =>
    if state.lastAck = some ack then (.ok .duplicate, state)
    else
      match state.checkAck ack with
      | .error e => (.error e, state)
      | .ok () =>
        (.ok (.applied (rangeTo state.records ack.acknowledgedPosition).length), state.applyAck ack)

/-- The resets of `rotate_stream_epoch` (lines 323-341) once the new epoch is known. -/
def beginEpoch (state : CloudLinkSpoolState) (streamEpoch : ℕ) : CloudLinkSpoolState :=
  { state with
    streamEpoch := streamEpoch
    nextPosition := 1
    lastAck := none
    lastAcknowledgedPosition := 0
    dataLoss := none }

/-- `rotate_stream_epoch` (lines 323-341). -/
def rotateStreamEpoch (state : CloudLinkSpoolState) :
    Except CloudLinkSpoolError ℕ × CloudLinkSpoolState :=
  if !state.records.isEmpty then
    (.error (spoolError .pendingRecords
      "CloudLink stream epoch cannot rotate while records are pending"), state)
  else
    match checkedAdd state.streamEpoch 1 with
    | none =>
      (.error (spoolError .storage "CloudLink stream epoch exhausted uint64"), state)
    | some streamEpoch => (.ok streamEpoch, state.beginEpoch streamEpoch)

end CloudLinkSpoolState

/-! ## The transition function -/

/-- A mutating operation on the spool state. `validateOpen` is what reopening a spool at
    another capacity does to the recovered state. -/
inductive SpoolOp where
  | enqueue (input : CloudLinkEnqueue)
  | markOffered (identity : CloudLinkRecordIdentity) (session : CloudLinkSessionBinding)
  | markTransportPublished (identity : CloudLinkRecordIdentity) (session : CloudLinkSessionBinding)
  | acknowledge (ack : CloudLinkDurableAck)
  | rotateStreamEpoch
  | validateOpen (streamId : String) (capacity : ℕ)
  deriving DecidableEq, Repr

/-- The state an operation leaves behind, whether it succeeds or fails. -/
def step (state : CloudLinkSpoolState) : SpoolOp → CloudLinkSpoolState
  | .enqueue input => (state.enqueue input).2
  | .markOffered identity session => (state.markOffered identity session).2
  | .markTransportPublished identity session => (state.markTransportPublished identity session).2
  | .acknowledge ack => (state.acknowledge ack).2
  | .rotateStreamEpoch => state.rotateStreamEpoch.2
  | .validateOpen streamId capacity => (state.validateOpen streamId capacity).2

end AetherEdge.CloudLink
