import Mathlib.Data.List.MinMax
import AetherEdge.Common.Text

/-!
# The challenge ledger

Model of `FileCloudLinkChallengeLedger`
(`libs/aether-store-local/src/cloudlink_challenge_ledger.rs`): the ledger in memory, its file, and
the operations that change both. An operation works on a copy of the state in memory, checks it,
replaces the file by way of a temporary one and only then takes the copy over (`mutate`).

The file holds the state itself. Of its JSON text only the length is read (`jsonLen`), and of the
hash only that it has 32 bytes. What the file system does is part of an operation: the write is done,
fails before or after the rename, or the process dies before or after it.

* `Mutation.run`: the four operations on the state;
* `mutate`, `openLedger`, `step`: the operations on memory and file;
* `Evolves`, `run_spec`: what an operation can do to a record.
-/

namespace AetherEdge.ChallengeLedger

/-! ## The state -/

/-- `CloudLinkChallengeLedgerError`. -/
inductive LedgerError where
  | unsupportedPlatform
  | invalidInput
  | capacityExceeded
  | conflictingReplay
  | completedReplay
  | messageExpired
  | missingChallenge
  | invalidTransition
  | insecurePermissions
  | corrupt
  | storage
  deriving DecidableEq, Repr

/-- Lines 103-106. -/
inductive ChallengeStatus where
  | pending
  | completed
  deriving DecidableEq, Repr

/-- Lines 110-123. -/
structure ChallengeRecord where
  challengeId : String
  expiresAtMs : ℕ
  challengeDigest : String
  challenge : Option String
  request : Option String
  hello : Option String
  status : ChallengeStatus
  completionOrder : Option ℕ
  deriving DecidableEq

/-- Lines 127-130. -/
structure PendingRequest where
  expiresAtMs : ℕ
  request : String
  deriving DecidableEq

/-- Lines 134-141. -/
structure LedgerState where
  schema : String
  capacity : ℕ
  pendingRequest : Option PendingRequest
  nextCompletionOrder : ℕ
  records : List ChallengeRecord
  deriving DecidableEq

/-- Line 13. -/
def ledgerSchema : String := "aether.edge.cloudlink-challenge-ledger.v1"

/-- Line 14. -/
def maxCapacity : ℕ := 256

/-- Line 15. -/
def maxTranscriptBytes : ℕ := 64 * 1024

/-- Line 16. -/
def maxLedgerBytes : ℕ := 32 * 1024 * 1024

/-- `empty` (lines 144-152). -/
def LedgerState.empty (capacity : ℕ) : LedgerState := ⟨ledgerSchema, capacity, none, 1, []⟩

/-- `String::from_utf8`. -/
def fromUtf8 (bytes : Bytes) : Option String := String.fromUTF8? ⟨bytes.toArray⟩

/-- `valid_identity` (lines 554-567): a UUID in lowercase. -/
def validIdentity (value : String) : Bool :=
  let bytes := strBytes value
  bytes.length == 36 && bytes[8]? == some 45 && bytes[13]? == some 45 && bytes[18]? == some 45 &&
    bytes[23]? == some 45 && bytes[14]?.any (fun byte => 49 ≤ byte && byte ≤ 56) &&
    bytes[19]?.any (fun byte => byte == 56 || byte == 57 || byte == 97 || byte == 98) &&
    bytes.zipIdx.all fun (byte, index) =>
      index == 8 || index == 13 || index == 18 || index == 23 || isLowerHex byte

/-- `valid_transcript` (lines 569-571). -/
def validTranscript (bytes : Bytes) : Bool :=
  !bytes.isEmpty && decide (bytes.length ≤ maxTranscriptBytes) && (fromUtf8 bytes).isSome

/-- `valid_digest` (lines 577-582). -/
def validDigest (value : String) : Bool := strLen value == 64 && (strBytes value).all isLowerHex

/-- The conditions on one record. -/
def LedgerState.validRecord (state : LedgerState) (record : ChallengeRecord) : Bool :=
  validIdentity record.challengeId && record.expiresAtMs != 0 && validDigest record.challengeDigest &&
    match record.status with
    | .pending =>
      record.challenge.any (fun challenge => validTranscript (strBytes challenge)) &&
        record.request.any (fun request => validTranscript (strBytes request)) &&
        record.hello.all (fun hello => validTranscript (strBytes hello)) &&
        record.completionOrder.isNone
    | .completed =>
      record.challenge.isNone && record.request.isNone && record.hello.isNone &&
        record.completionOrder.any fun order => decide (order < state.nextCompletionOrder)

/-- `validate` (lines 154-210). -/
def LedgerState.validate (state : LedgerState) (configuredCapacity : ℕ) :
    Except LedgerError Unit :=
  if state.schema = ledgerSchema ∧ state.capacity = configuredCapacity ∧
      state.records.length ≤ state.capacity ∧ state.nextCompletionOrder ≠ 0 ∧
      (state.pendingRequest.all fun pending =>
        pending.expiresAtMs != 0 && validTranscript (strBytes pending.request)) = true ∧
      (state.records.map ChallengeRecord.challengeId).Nodup ∧
      (state.records.filterMap ChallengeRecord.completionOrder).Nodup ∧
      (state.records.all state.validRecord) = true then .ok ()
  else .error .corrupt

/-! ## The operations on the state -/

/-- What an operation returns. -/
inductive Reply where
  | request (payload : Bytes) (expiresAtMs : ℕ)
  | prepare (challenge request : Bytes)
  | retryHello (hello : Bytes)
  | hello (hello : Bytes)
  | completed
  deriving DecidableEq

/-- An operation and its arguments. -/
inductive Mutation where
  | prepareRequest (request : Bytes) (expiresAtMs evaluationTimeMs : ℕ)
  | reserve (challengeId : String) (expiresAtMs : ℕ) (challenge request : Bytes)
      (evaluationTimeMs : ℕ)
  | storeHello (challengeId : String) (hello : Bytes)
  | complete (challengeId : String)

/-- The pending request that has not expired. -/
def LedgerState.livePending (state : LedgerState) (evaluationTimeMs : ℕ) : Option PendingRequest :=
  state.pendingRequest.filter fun pending => decide (evaluationTimeMs < pending.expiresAtMs)

/-- The records that `reserve` (lines 352-460) retains. -/
def LedgerState.retained (state : LedgerState) (evaluationTimeMs : ℕ) : List ChallengeRecord :=
  state.records.filter fun record =>
    record.status == .completed || decide (evaluationTimeMs < record.expiresAtMs)

/-- `record.completion_order` in the order of `Option<u64>`. -/
def ChallengeRecord.orderKey (record : ChallengeRecord) : ℕ := record.completionOrder.elim 0 (· + 1)

/-- The index of the completed record with the least completion order. -/
def oldestCompleted (records : List ChallengeRecord) : Option ℕ :=
  ((records.zipIdx.filter fun entry => entry.1.status == .completed).argmin
    fun entry => entry.1.orderKey).map Prod.snd

/-- The records with room for one more, if there is a completed one. -/
def evict (records : List ChallengeRecord) (capacity : ℕ) : List ChallengeRecord :=
  if records.length = capacity then
    match oldestCompleted records with
    | some index => records.eraseIdx index
    | none => records
  else records

/-- The first record of the challenge is replaced. -/
def updateRecord (challengeId : String) (change : ChallengeRecord → ChallengeRecord) :
    List ChallengeRecord → List ChallengeRecord
  | [] => []
  | record :: records =>
    if record.challengeId = challengeId then change record :: records
    else record :: updateRecord challengeId change records

/-- The record of a challenge. -/
def findRecord (records : List ChallengeRecord) (challengeId : String) : Option ChallengeRecord :=
  records.find? fun record => record.challengeId == challengeId

/-- The closure of `prepare_request` (lines 312-349). -/
def LedgerState.prepareRequest (state : LedgerState) (request : String)
    (expiresAtMs evaluationTimeMs : ℕ) : Reply × LedgerState :=
  match state.livePending evaluationTimeMs with
  | some pending =>
    (.request (strBytes pending.request) pending.expiresAtMs,
      { state with pendingRequest := some pending })
  | none =>
    (.request (strBytes request) expiresAtMs,
      { state with pendingRequest := some ⟨expiresAtMs, request⟩ })

/-- The closure of `reserve` (lines 352-460), for a challenge that has a record. -/
def LedgerState.reserveAgain (state : LedgerState) (record : ChallengeRecord) (expiresAtMs : ℕ)
    (challengeDigest request : String) (evaluationTimeMs : ℕ) :
    Except LedgerError (Reply × LedgerState) :=
  if record.expiresAtMs ≠ expiresAtMs ∨ record.challengeDigest ≠ challengeDigest then
    .error .conflictingReplay
  else if record.status = .completed then .error .completedReplay
  else
    match state.livePending evaluationTimeMs with
    | none => .error .missingChallenge
    | some pending =>
      if pending.request ≠ request then .error .conflictingReplay
      else
        let state := { state with pendingRequest := some ⟨expiresAtMs, pending.request⟩ }
        match record.challenge, record.request with
        | some challenge, some request =>
          match record.hello with
          | some hello => .ok (.retryHello (strBytes hello), state)
          | none => .ok (.prepare (strBytes challenge) (strBytes request), state)
        | _, _ => .error .corrupt

/-- The record that `reserve` (lines 352-460) adds. -/
def newRecord (challengeId : String) (expiresAtMs : ℕ) (challengeDigest challenge request : String) :
    ChallengeRecord :=
  ⟨challengeId, expiresAtMs, challengeDigest, some challenge, some request, none, .pending, none⟩

/-- The closure of `reserve` (lines 352-460), for a new challenge. -/
def LedgerState.reserveNew (state : LedgerState) (challengeId : String) (expiresAtMs : ℕ)
    (challengeDigest challenge request : String) (evaluationTimeMs : ℕ) :
    Except LedgerError (Reply × LedgerState) :=
  match state.livePending evaluationTimeMs with
  | none => .error .missingChallenge
  | some pending =>
    if pending.request ≠ request then .error .conflictingReplay
    else
      let records := evict state.records state.capacity
      if records.length = state.capacity then .error .capacityExceeded
      else
        let record := newRecord challengeId expiresAtMs challengeDigest challenge request
        .ok (.prepare (strBytes challenge) (strBytes request),
          { state with
            pendingRequest := some ⟨expiresAtMs, pending.request⟩
            records := (records ++ [record]).mergeSort fun left right =>
              decide (left.challengeId ≤ right.challengeId) })

/-- `store_hello` (lines 463-491). -/
def ChallengeRecord.storeHello (record : ChallengeRecord) (hello : String) : ChallengeRecord :=
  { record with hello := some hello }

/-- The closure of `store_hello` (lines 463-491). -/
def LedgerState.storeHello (state : LedgerState) (challengeId hello : String) :
    Except LedgerError (Reply × LedgerState) :=
  match findRecord state.records challengeId with
  | none => .error .missingChallenge
  | some record =>
    if record.status = .completed then .error .completedReplay
    else
      match record.hello with
      | some existing =>
        if existing = hello then .ok (.hello (strBytes existing), state)
        else .error .conflictingReplay
      | none =>
        let records := updateRecord challengeId (·.storeHello hello) state.records
        .ok (.hello (strBytes hello), { state with records := records })

/-- `complete` (lines 494-533). -/
def ChallengeRecord.complete (record : ChallengeRecord) (order : ℕ) : ChallengeRecord :=
  { record with
    status := .completed
    challenge := none
    request := none
    hello := none
    completionOrder := some order }

/-- The closure of `complete` (lines 494-533). -/
def LedgerState.complete (state : LedgerState) (challengeId : String) :
    Except LedgerError (Reply × LedgerState) :=
  match findRecord state.records challengeId with
  | none => .error .missingChallenge
  | some record =>
    if record.status = .completed then .error .completedReplay
    else if record.hello = none then .error .invalidTransition
    else
      match record.request with
      | none => .error .corrupt
      | some request =>
        if state.pendingRequest.all fun pending => pending.request != request then
          .error .invalidTransition
        else
          match checkedAdd state.nextCompletionOrder 1 with
          | none => .error .storage
          | some next =>
            let records :=
              updateRecord challengeId (·.complete state.nextCompletionOrder) state.records
            .ok (.completed,
              { state with
                records := records
                nextCompletionOrder := next
                pendingRequest := none })

section Operations

variable (sha256 : Bytes → Vector UInt8 32)

/-- `transcript_digest` (lines 573-575). -/
def transcriptDigest (bytes : Bytes) : String := hexText (sha256 bytes).toList

/-- An operation on the state in memory, with the checks of its arguments. -/
def Mutation.run (mutation : Mutation) (state : LedgerState) :
    Except LedgerError (Reply × LedgerState) :=
  match mutation with
  | .prepareRequest request expiresAtMs evaluationTimeMs =>
    if !validTranscript request || expiresAtMs == 0 then .error .invalidInput
    else if expiresAtMs ≤ evaluationTimeMs then .error .messageExpired
    else
      match fromUtf8 request with
      | none => .error .invalidInput
      | some request => .ok (state.prepareRequest request expiresAtMs evaluationTimeMs)
  | .reserve challengeId expiresAtMs challenge request evaluationTimeMs =>
    if !validIdentity challengeId || expiresAtMs == 0 || !validTranscript challenge ||
        !validTranscript request then .error .invalidInput
    else if expiresAtMs ≤ evaluationTimeMs then .error .messageExpired
    else
      match fromUtf8 challenge, fromUtf8 request with
      | some challenge, some request =>
        let digest := transcriptDigest sha256 (strBytes challenge)
        let state := { state with records := state.retained evaluationTimeMs }
        match findRecord state.records challengeId with
        | some record => state.reserveAgain record expiresAtMs digest request evaluationTimeMs
        | none =>
          state.reserveNew challengeId expiresAtMs digest challenge request evaluationTimeMs
      | _, _ => .error .invalidInput
  | .storeHello challengeId hello =>
    if !validIdentity challengeId || !validTranscript hello then .error .invalidInput
    else
      match fromUtf8 hello with
      | none => .error .invalidInput
      | some hello => state.storeHello challengeId hello
  | .complete challengeId =>
    if !validIdentity challengeId then .error .invalidInput else state.complete challengeId

/-! ## Memory and file -/

/-- The fate of `write_state`: it fails in a step up to the rename or in the sync of the directory
    after it, or the process dies before or after the rename. -/
inductive WriteFate where
  | done
  | failed
  | syncFailed (error : LedgerError)
  | crashed (renamed : Bool)

/-- A call returns, or the process dies in it. -/
inductive Outcome (α : Type) where
  | returned (result : Except LedgerError α)
  | crashed
  deriving DecidableEq

/-- The state in the file, the state in the memory of the process that has the ledger open, and the
    operations that were asked for. -/
structure System where
  disk : Option LedgerState
  memory : Option LedgerState
  requested : List Mutation

/-- A step. `close` is the end of the process. -/
inductive Op where
  | openLedger (capacity : ℕ) (fate : WriteFate)
  | mutate (mutation : Mutation) (fate : WriteFate)
  | close

variable (jsonLen : LedgerState → ℕ)

/-- `write_state` (lines 687-726). -/
def writeState (disk : Option LedgerState) (state : LedgerState) (fate : WriteFate) :
    Outcome Unit × Option LedgerState :=
  if jsonLen state = 0 ∨ maxLedgerBytes < jsonLen state then (.returned (.error .corrupt), disk)
  else
    match fate with
    | .done => (.returned (.ok ()), some state)
    | .failed => (.returned (.error .storage), disk)
    | .syncFailed error => (.returned (.error error), some state)
    | .crashed renamed => (.crashed, if renamed then some state else disk)

/-- `mutate` (lines 535-551). -/
def mutate (s : System) (mutation : Mutation) (fate : WriteFate) : Outcome Reply × System :=
  let s := { s with requested := s.requested ++ [mutation] }
  match s.memory with
  | none => (.returned (.error .storage), s)
  | some current =>
    match mutation.run sha256 current with
    | .error error => (.returned (.error error), s)
    | .ok (reply, next) =>
      match next.validate current.capacity with
      | .error error => (.returned (.error error), s)
      | .ok () =>
        if next = current then (.returned (.ok reply), s)
        else
          match writeState jsonLen s.disk next fate with
          | (.returned (.ok ()), disk) =>
            (.returned (.ok reply), { s with disk := disk, memory := some next })
          | (.returned (.error error), disk) => (.returned (.error error), { s with disk := disk })
          | (.crashed, disk) => (.crashed, { s with disk := disk, memory := none })

/-- `open_unix` (lines 250-306) once the lock of the process is held. The failures of the file
    system before the state is read are in `fate`. -/
def openLedger (s : System) (capacity : ℕ) (fate : WriteFate) : Outcome Unit × System :=
  if capacity = 0 ∨ maxCapacity < capacity then (.returned (.error .invalidInput), s)
  else if s.memory.isSome then (.returned (.error .storage), s)
  else
    match s.disk with
    | some state =>
      match fate with
      | .done =>
        match state.validate capacity with
        | .error error => (.returned (.error error), s)
        | .ok () => (.returned (.ok ()), { s with memory := some state })
      | .failed => (.returned (.error .storage), s)
      | .syncFailed error => (.returned (.error error), s)
      | .crashed _ => (.crashed, s)
    | none =>
      match writeState jsonLen s.disk (.empty capacity) fate with
      | (.returned (.ok ()), disk) =>
        (.returned (.ok ()), { s with disk := disk, memory := some (.empty capacity) })
      | (.returned (.error error), disk) => (.returned (.error error), { s with disk := disk })
      | (.crashed, disk) => (.crashed, { s with disk := disk })

/-- A step of the system. -/
def step (s : System) : Op → System
  | .openLedger capacity fate => (openLedger jsonLen s capacity fate).2
  | .mutate mutation fate => (mutate sha256 jsonLen s mutation fate).2
  | .close => { s with memory := none }

end Operations

/-- A path without a ledger. -/
def System.fresh : System := ⟨none, none, []⟩

/-! ## What an operation can do to a record -/

/-- A record stays as it is, gets its hello, or is completed. -/
inductive Evolves : ChallengeRecord → ChallengeRecord → Prop where
  | same (record : ChallengeRecord) : Evolves record record
  | hello {record : ChallengeRecord} (hpending : record.status = .pending)
      (hnone : record.hello = none) (hello : String) :
      Evolves record (record.storeHello hello)
  | complete {record : ChallengeRecord} (hpending : record.status = .pending) (order : ℕ) :
      Evolves record (record.complete order)

/-- Pending and expired, so that a mutation drops it. -/
def ExpiredUnfinished (evaluationTimeMs : ℕ) (record : ChallengeRecord) : Prop :=
  record.status = .pending ∧ record.expiresAtMs ≤ evaluationTimeMs

/-- The ledger is full without its expired records, and the record is the oldest completed one. -/
def OldestOfFull (state : LedgerState) (evaluationTimeMs : ℕ) (record : ChallengeRecord) : Prop :=
  (state.retained evaluationTimeMs).length = state.capacity ∧ record.status = .completed ∧
    ∀ other ∈ state.records, other.status = .completed → record.orderKey ≤ other.orderKey

/-- The operation is a `reserve` that removes the record. -/
def Retires (mutation : Mutation) (state : LedgerState) (record : ChallengeRecord) : Prop :=
  ∃ challengeId expiresAtMs challenge request evaluationTimeMs,
    mutation = .reserve challengeId expiresAtMs challenge request evaluationTimeMs ∧
      (ExpiredUnfinished evaluationTimeMs record ∨ OldestOfFull state evaluationTimeMs record)

theorem Evolves.challengeId {record record' : ChallengeRecord} (h : Evolves record record') :
    record'.challengeId = record.challengeId := by
  cases h with
  | same | hello | complete => rfl

theorem Evolves.expiresAtMs {record record' : ChallengeRecord} (h : Evolves record record') :
    record'.expiresAtMs = record.expiresAtMs := by
  cases h with
  | same | hello | complete => rfl

theorem status_eq_pending {record : ChallengeRecord} (h : ¬record.status = .completed) :
    record.status = .pending := by
  cases hstatus : record.status with
  | pending => rfl
  | completed => exact absurd hstatus h

theorem mem_retained {state : LedgerState} {t : ℕ} {record : ChallengeRecord}
    (h : record ∈ state.records) (hlive : ¬ExpiredUnfinished t record) :
    record ∈ state.retained t := by
  refine List.mem_filter.2 ⟨h, ?_⟩
  cases hstatus : record.status with
  | completed => rfl
  | pending =>
    have hlt : t < record.expiresAtMs := not_le.1 fun hle => hlive ⟨hstatus, hle⟩
    simp [hlt]

variable {records : List ChallengeRecord}

/-- The record that makes room is the completed one with the least order. -/
theorem oldestCompleted_spec {index : ℕ} (h : oldestCompleted records = some index) :
    ∃ record, records[index]? = some record ∧ record.status = .completed ∧
      ∀ other ∈ records, other.status = .completed → record.orderKey ≤ other.orderKey := by
  obtain ⟨⟨record, i⟩, hmin, rfl⟩ := Option.map_eq_some_iff.1 h
  obtain ⟨hmem, hstatus⟩ := List.mem_filter.1 (List.argmin_mem hmin)
  refine ⟨record, List.mem_zipIdx_iff_getElem?.1 hmem, beq_iff_eq.1 hstatus, ?_⟩
  intro other hoth hcompl
  obtain ⟨j, hj⟩ := List.mem_iff_getElem?.1 hoth
  have hcand : (other, j) ∈
      records.zipIdx.filter fun entry => entry.1.status == .completed :=
    List.mem_filter.2 ⟨List.mem_zipIdx_iff_getElem?.2 hj, beq_iff_eq.2 hcompl⟩
  exact List.le_of_mem_argmin (f := fun entry : ChallengeRecord × ℕ => entry.1.orderKey) hcand
    hmin

/-- Room is made by the oldest completed record of a full ledger. -/
theorem mem_evict {capacity : ℕ} {record : ChallengeRecord} (h : record ∈ records) :
    record ∈ evict records capacity ∨
      (records.length = capacity ∧ record.status = .completed ∧
        ∀ other ∈ records, other.status = .completed → record.orderKey ≤ other.orderKey) := by
  unfold evict
  split_ifs with hfull
  · split
    · next index holdest =>
      obtain ⟨evicted, hevicted, hcompl, hleast⟩ := oldestCompleted_spec holdest
      obtain ⟨i, hi⟩ := List.mem_iff_getElem?.1 h
      by_cases hindex : i = index
      · subst hindex
        obtain rfl := Option.some.inj (hevicted.symm.trans hi)
        exact .inr ⟨hfull, hcompl, hleast⟩
      · exact .inl (List.mem_eraseIdx_iff_getElem?.2 ⟨i, hindex, hi⟩)
    · exact .inl h
  · exact .inl h

theorem mem_updateRecord {record : ChallengeRecord} (h : record ∈ records) (challengeId : String)
    (change : ChallengeRecord → ChallengeRecord) :
    record ∈ updateRecord challengeId change records ∨
      findRecord records challengeId = some record ∧
        change record ∈ updateRecord challengeId change records := by
  induction records with
  | nil => cases h
  | cons head tail ih =>
    unfold updateRecord findRecord
    by_cases hid : head.challengeId = challengeId
    · rw [if_pos hid, List.find?_cons_of_pos (by simp [hid])]
      rcases List.mem_cons.1 h with rfl | htail
      · exact .inr ⟨rfl, List.mem_cons_self⟩
      · exact .inl (List.mem_cons_of_mem _ htail)
    · rw [if_neg hid, List.find?_cons_of_neg (by simp [hid])]
      rcases List.mem_cons.1 h with rfl | htail
      · exact .inl List.mem_cons_self
      · rcases ih htail with hmem | ⟨hfind, hmem⟩
        · exact .inl (List.mem_cons_of_mem _ hmem)
        · exact .inr ⟨hfind, List.mem_cons_of_mem _ hmem⟩

variable {challengeId : String}

theorem change_mem_updateRecord {found : ChallengeRecord}
    (h : findRecord records challengeId = some found) (change : ChallengeRecord → ChallengeRecord) :
    change found ∈ updateRecord challengeId change records := by
  induction records with
  | nil => cases h
  | cons head tail ih =>
    unfold findRecord at h
    unfold updateRecord
    by_cases hid : head.challengeId = challengeId
    · rw [List.find?_cons_of_pos (by simp [hid])] at h
      cases h
      rw [if_pos hid]
      exact List.mem_cons_self
    · rw [List.find?_cons_of_neg (by simp [hid])] at h
      rw [if_neg hid]
      exact List.mem_cons_of_mem _ (ih h)

/-- The record has a successor of the same challenge. -/
def Survives (record : ChallengeRecord) (records : List ChallengeRecord) : Prop :=
  ∃ record' ∈ records, Evolves record record'

theorem survives_of_mem {record : ChallengeRecord} (h : record ∈ records) :
    Survives record records :=
  ⟨record, h, .same record⟩

/-- The records stay, or one of them evolves. -/
def Edits (before after : List ChallengeRecord) : Prop :=
  after = before ∨ ∃ challengeId change, after = updateRecord challengeId change before ∧
    ∀ found, findRecord before challengeId = some found → Evolves found (change found)

theorem Edits.survives {before after : List ChallengeRecord} (h : Edits before after)
    {record : ChallengeRecord} (hmem : record ∈ before) : Survives record after := by
  rcases h with rfl | ⟨challengeId, change, rfl, hchange⟩
  · exact survives_of_mem hmem
  · rcases mem_updateRecord hmem challengeId change with hmem | ⟨hfind, hmem⟩
    · exact survives_of_mem hmem
    · exact ⟨change record, hmem, hchange record hfind⟩

theorem Edits.origin {before after : List ChallengeRecord} (h : Edits before after)
    {record : ChallengeRecord} (hmem : record ∈ after) :
    ∃ record' ∈ before, Evolves record' record := by
  rcases h with rfl | ⟨challengeId, change, rfl, hchange⟩
  · exact ⟨record, hmem, .same record⟩
  induction before with
  | nil => cases hmem
  | cons head tail ih =>
    unfold updateRecord at hmem
    unfold findRecord at hchange
    by_cases hid : head.challengeId = challengeId
    · rw [if_pos hid] at hmem
      rw [List.find?_cons_of_pos (by simp [hid])] at hchange
      rcases List.mem_cons.1 hmem with rfl | htail
      · exact ⟨head, List.mem_cons_self, hchange head rfl⟩
      · exact ⟨record, List.mem_cons_of_mem _ htail, .same record⟩
    · rw [if_neg hid] at hmem
      rw [List.find?_cons_of_neg (by simp [hid])] at hchange
      rcases List.mem_cons.1 hmem with rfl | htail
      · exact ⟨record, List.mem_cons_self, .same record⟩
      · obtain ⟨record', hrec', hevolves⟩ := ih hchange htail
        exact ⟨record', List.mem_cons_of_mem _ hrec', hevolves⟩

section Spec

variable {state next : LedgerState} {reply : Reply} {record : ChallengeRecord}

theorem records_prepareRequest (request : String) (expiresAtMs evaluationTimeMs : ℕ) :
    (state.prepareRequest request expiresAtMs evaluationTimeMs).2.records = state.records := by
  unfold LedgerState.prepareRequest
  split
  · rfl
  · rfl

variable {evaluationTimeMs expiresAtMs : ℕ} {challengeDigest : String}

theorem records_reserveAgain {found : ChallengeRecord} {request : String}
    (h : state.reserveAgain found expiresAtMs challengeDigest request evaluationTimeMs = .ok (reply,
      next)) :
    next.records = state.records := by
  unfold LedgerState.reserveAgain at h
  split_ifs at h
  split at h
  · cases h
  split_ifs at h
  split at h
  · split at h
    · cases h
      rfl
    · cases h
      rfl
  · cases h

theorem survives_reserveNew {challenge request : String}
    (h : state.reserveNew challengeId expiresAtMs challengeDigest challenge request evaluationTimeMs
      = .ok (reply, next))
    (hmem : record ∈ state.records) :
    Survives record next.records ∨
      (state.records.length = state.capacity ∧ record.status = .completed ∧
        ∀ other ∈ state.records, other.status = .completed → record.orderKey ≤ other.orderKey) := by
  unfold LedgerState.reserveNew at h
  split at h
  · cases h
  dsimp only at h
  split_ifs at h
  cases h
  refine (mem_evict hmem).imp_left fun hkept => survives_of_mem ?_
  exact List.mem_mergeSort.2 (List.mem_append_left _ hkept)

/-- A hello is stored in a record that has none, or it is the one that is there. -/
theorem storeHello_spec {hello : String}
    (h : state.storeHello challengeId hello = .ok (reply, next)) :
    reply = .hello (strBytes hello) ∧ ∃ found, findRecord state.records challengeId = some found ∧
      found.status = .pending ∧
      (found.hello = some hello ∧ next = state ∨
        found.hello = none ∧
          next = { state with
            records := updateRecord challengeId (·.storeHello hello) state.records }) := by
  unfold LedgerState.storeHello at h
  split at h
  · cases h
  next found hfind =>
  split_ifs at h with hcompl
  split at h
  · next existing hexist =>
    split_ifs at h with hsame
    cases h
    subst hsame
    exact ⟨rfl, found, hfind, status_eq_pending hcompl, .inl ⟨hexist, rfl⟩⟩
  · next hnone =>
    cases h
    exact ⟨rfl, found, hfind, status_eq_pending hcompl, .inr ⟨hnone, rfl⟩⟩

theorem edits_storeHello {hello : String}
    (h : state.storeHello challengeId hello = .ok (reply, next)) :
    Edits state.records next.records := by
  obtain ⟨-, found, hfind, hpend, ⟨-, rfl⟩ | ⟨hnone, rfl⟩⟩ := storeHello_spec h
  · exact .inl rfl
  · refine .inr ⟨challengeId, _, rfl, fun found' hfind' => ?_⟩
    obtain rfl := Option.some.inj (hfind.symm.trans hfind')
    exact .hello hpend hnone hello

theorem complete_spec (h : state.complete challengeId = .ok (reply, next)) :
    ∃ found, findRecord state.records challengeId = some found ∧ found.status = .pending ∧
      next.records =
        updateRecord challengeId (·.complete state.nextCompletionOrder) state.records := by
  unfold LedgerState.complete at h
  split at h
  · cases h
  next found hfind =>
  split_ifs at h with hcompl
  split at h
  · cases h
  split_ifs at h
  split at h
  · cases h
  · cases h
    exact ⟨found, hfind, status_eq_pending hcompl, rfl⟩

theorem edits_complete (h : state.complete challengeId = .ok (reply, next)) :
    Edits state.records next.records := by
  obtain ⟨found, hfind, hpend, hrecs⟩ := complete_spec h
  refine .inr ⟨challengeId, _, hrecs, fun found' hfind' => ?_⟩
  obtain rfl := Option.some.inj (hfind.symm.trans hfind')
  exact .complete hpend _

variable {sha256 : Bytes → Vector UInt8 32} {mutation : Mutation}

/-- Of an operation other than `reserve`, the records are edited. -/
theorem run_edits (h : mutation.run sha256 state = .ok (reply, next)) :
    Edits state.records next.records ∨
      ∃ challengeId expiresAtMs challenge request evaluationTimeMs,
        mutation = .reserve challengeId expiresAtMs challenge request evaluationTimeMs := by
  cases mutation with
  | prepareRequest request expiresAtMs evaluationTimeMs =>
    simp only [Mutation.run] at h
    split_ifs at h
    split at h
    · cases h
    · rw [Except.ok.injEq] at h
      refine .inl (.inl ?_)
      rw [← show _ = next from congrArg Prod.snd h, records_prepareRequest]
  | reserve => exact .inr ⟨_, _, _, _, _, rfl⟩
  | storeHello challengeId hello =>
    simp only [Mutation.run] at h
    split_ifs at h
    split at h
    · cases h
    · exact .inl (edits_storeHello h)
  | complete challengeId =>
    simp only [Mutation.run] at h
    split_ifs at h
    exact .inl (edits_complete h)

/-- What a `reserve` does to the records: they are those that were retained, or there is a new one
    of a challenge that had none among them. -/
theorem run_reserve {challenge request : Bytes}
    (h : (Mutation.reserve challengeId expiresAtMs challenge request evaluationTimeMs).run sha256
      state = .ok (reply, next)) :
    next.records = state.retained evaluationTimeMs ∨
      evaluationTimeMs < expiresAtMs ∧ ∃ digest challenge request,
        { state with records := state.retained evaluationTimeMs }.reserveNew challengeId expiresAtMs
          digest challenge request evaluationTimeMs = .ok (reply, next) ∧
        ∀ before ∈ state.retained evaluationTimeMs, before.challengeId ≠ challengeId := by
  simp only [Mutation.run] at h
  split_ifs at h with hinv hexpired
  split at h
  · split at h
    · exact .inl (records_reserveAgain h)
    · next hfind =>
      refine .inr ⟨not_le.1 hexpired, _, _, _, h, fun before hbef => ?_⟩
      simpa using List.find?_eq_none.1 hfind before hbef
  · cases h

/-- A record survives an operation, or the operation is a `reserve` that may remove it. -/
theorem run_spec (h : mutation.run sha256 state = .ok (reply, next))
    (hmem : record ∈ state.records) :
    Survives record next.records ∨ Retires mutation state record := by
  rcases run_edits h with hedits | ⟨challengeId, expiresAtMs, challenge, request, t, rfl⟩
  · exact .inl (hedits.survives hmem)
  by_cases hexpired : ExpiredUnfinished t record
  · exact .inr ⟨_, _, _, _, _, rfl, .inl hexpired⟩
  have hret := mem_retained hmem hexpired
  rcases run_reserve h with hrecs | ⟨-, _, _, _, hnew, -⟩
  · exact .inl (survives_of_mem (hrecs ▸ hret))
  rcases survives_reserveNew hnew hret with hsurvives | ⟨hfull, hcompl, hleast⟩
  · exact .inl hsurvives
  refine .inr ⟨_, _, _, _, _, rfl, .inr ⟨hfull, hcompl, fun other hoth hdone => ?_⟩⟩
  refine hleast other (mem_retained hoth ?_) hdone
  rintro ⟨hpend, -⟩
  rw [hdone] at hpend
  cases hpend

theorem mem_of_mem_evict {capacity : ℕ} (h : record ∈ evict records capacity) :
    record ∈ records := by
  unfold evict at h
  split_ifs at h
  · split at h
    · exact List.mem_of_mem_eraseIdx h
    · exact h
  · exact h

theorem origin_reserveNew {challenge request : String}
    (h : state.reserveNew challengeId expiresAtMs challengeDigest challenge request evaluationTimeMs
      = .ok (reply, next))
    (hmem : record ∈ next.records) :
    record ∈ state.records ∨
      record = newRecord challengeId expiresAtMs challengeDigest challenge request := by
  unfold LedgerState.reserveNew at h
  split at h
  · cases h
  dsimp only at h
  split_ifs at h
  cases h
  rcases List.mem_append.1 (List.mem_mergeSort.1 hmem) with hold | hnew
  · exact .inl (mem_of_mem_evict hold)
  · exact .inr (List.mem_singleton.1 hnew)

/-- A record comes from one of the same challenge, or a `reserve` has just made it for a challenge
    that has no record which is completed or has not expired. -/
theorem run_origin (h : mutation.run sha256 state = .ok (reply, next))
    (hmem : record ∈ next.records) :
    (∃ before ∈ state.records, Evolves before record) ∨
      (∃ challenge request evaluationTimeMs,
        mutation =
          .reserve record.challengeId record.expiresAtMs challenge request evaluationTimeMs ∧
        evaluationTimeMs < record.expiresAtMs ∧
        ∀ before ∈ state.retained evaluationTimeMs, before.challengeId ≠ record.challengeId) := by
  rcases run_edits h with hedits | ⟨challengeId, expiresAtMs, challenge, request, t, rfl⟩
  · exact .inl (hedits.origin hmem)
  have hsame (hret : record ∈ state.retained t) :
      ∃ before ∈ state.records, Evolves before record :=
    ⟨record, (List.mem_filter.1 hret).1, .same record⟩
  rcases run_reserve h with hrecs | ⟨hlive, _, _, _, hnew, hfr⟩
  · exact .inl (hsame (hrecs ▸ hmem))
  · rcases origin_reserveNew hnew hmem with hold | rfl
    · exact .inl (hsame hold)
    · exact .inr ⟨challenge, request, t, rfl, hlive, hfr⟩

end Spec

end AetherEdge.ChallengeLedger
