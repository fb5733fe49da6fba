import AetherEdge.Common.Basic

/-!
# CloudLink stream types

The data of `crates/aether-ports/src/cloudlink.rs`: records, sessions, acknowledgements,
loss evidence and the typed spool error. Accessor methods are the field projections.
Stream epochs and positions are natural numbers; the operations that advance them check
for `u64` overflow. Timestamps and session epochs are only compared and carried, so they
keep the machine type.
-/

namespace AetherEdge.CloudLink

/-- Lines 20-31. -/
inductive CloudLinkMessageKind where
  | runtimeManifestReport
  | telemetryBatch
  | integrationTopologySnapshot
  | integrationObservationBatch
  | dataLoss
  deriving DecidableEq, Repr

/-- Lines 49-53. -/
structure CloudLinkRecordIdentity where
  streamId : String
  streamEpoch : ℕ
  position : ℕ
  deriving DecidableEq, Repr

/-- Lines 88-95. -/
inductive CloudLinkDeliveryState where
  | queued
  | offered
  | transportPublished
  deriving DecidableEq, Repr

/-- Lines 99-102. -/
structure CloudLinkSessionBinding where
  sessionId : String
  sessionEpoch : UInt64
  deriving DecidableEq, Repr

/-- Lines 129-136. -/
structure CloudLinkEnqueue where
  messageKind : CloudLinkMessageKind
  batchId : String
  digest : String
  payload : Bytes
  createdAt : UInt64
  expiresAt : Option UInt64
  deriving DecidableEq, Repr

/-- Lines 198-208. -/
structure CloudLinkRecord where
  identity : CloudLinkRecordIdentity
  messageKind : CloudLinkMessageKind
  batchId : String
  digest : String
  payload : Bytes
  createdAt : UInt64
  expiresAt : Option UInt64
  state : CloudLinkDeliveryState
  offeredSession : Option CloudLinkSessionBinding
  deriving DecidableEq, Repr

/-- `from_enqueue` (lines 216-228). -/
def CloudLinkRecord.fromEnqueue (identity : CloudLinkRecordIdentity) (input : CloudLinkEnqueue) :
    CloudLinkRecord where
  identity := identity
  messageKind := input.messageKind
  batchId := input.batchId
  digest := input.digest
  payload := input.payload
  createdAt := input.createdAt
  expiresAt := input.expiresAt
  state := .queued
  offeredSession := none

/-- The sealed business content of a record: everything but its identity and its delivery
    bookkeeping. -/
def CloudLinkRecord.content (record : CloudLinkRecord) : CloudLinkEnqueue where
  messageKind := record.messageKind
  batchId := record.batchId
  digest := record.digest
  payload := record.payload
  createdAt := record.createdAt
  expiresAt := record.expiresAt

/-- `set_offered` (lines 288-291). -/
def CloudLinkRecord.setOffered (record : CloudLinkRecord) (session : CloudLinkSessionBinding) :
    CloudLinkRecord :=
  { record with state := .offered, offeredSession := some session }

/-- `set_transport_published` (lines 294-297). -/
def CloudLinkRecord.setTransportPublished (record : CloudLinkRecord)
    (session : CloudLinkSessionBinding) : CloudLinkRecord :=
  { record with state := .transportPublished, offeredSession := some session }

/-- Lines 302-310. -/
structure CloudLinkDurableAck where
  session : CloudLinkSessionBinding
  streamId : String
  streamEpoch : ℕ
  acknowledgedPosition : ℕ
  batchId : String
  digest : String
  receiptId : String
  deriving DecidableEq, Repr

/-- Lines 381-389. -/
inductive DurableAckOutcome where
  | applied (removed : ℕ)
  | duplicate
  deriving DecidableEq, Repr

/-- Lines 393-401. -/
structure CloudLinkDataLossEvidence where
  streamId : String
  streamEpoch : ℕ
  firstLostPosition : ℕ
  lastLostPosition : ℕ
  earliestRetainedPosition : ℕ
  reason : String
  recordedAt : UInt64
  deriving DecidableEq, Repr

/-- `extend_overflow` (lines 470-473). -/
def CloudLinkDataLossEvidence.extendOverflow (evidence : CloudLinkDataLossEvidence)
    (lastLost earliestRetained : ℕ) : CloudLinkDataLossEvidence :=
  { evidence with lastLostPosition := lastLost, earliestRetainedPosition := earliestRetained }

/-- Lines 478-481. -/
structure CloudLinkReplayWindow where
  records : List CloudLinkRecord
  dataLoss : Option CloudLinkDataLossEvidence
  deriving DecidableEq, Repr

/-- Lines 596-613. -/
inductive CloudLinkSpoolErrorReason where
  | invalidData
  | staleSession
  | wrongStream
  | conflictingIdentity
  | positionGap
  | pendingRecords
  | corruptJournal
  | storage
  deriving DecidableEq, Repr

/-- Lines 617-620. -/
structure CloudLinkSpoolError where
  reason : CloudLinkSpoolErrorReason
  message : String
  deriving DecidableEq, Repr

end AetherEdge.CloudLink
