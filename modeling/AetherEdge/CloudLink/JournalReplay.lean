import AetherEdge.CloudLink.Journal
import AetherEdge.CloudLink.SpoolInvariant

/-!
# Replay simulates the live spool

The live spool and the replay of its journal are written separately: `perform` runs an
operation and names the entry it journals, `applyEntry` re-derives the effect from the entry.

* `perform_ok`: replaying the entry of an operation gives the state the operation
  produced;
* `replay_compactedEntries`: replaying a compacted journal gives the compacted state;
* `recover_committed`, `recover_torn`: recovery of a journal that replays to a state, also
  with a torn frame behind it.
-/

namespace AetherEdge.CloudLink

open OrderedMap Framing Transition CloudLinkSpoolState Std.ExtTreeMap
open Std (ExtTreeMap)

/-! ## Requests -/

/-- The mutating calls of the `CloudLinkSpool` port. -/
inductive SpoolRequest where
  | enqueue (input : CloudLinkEnqueue)
  | markOffered (identity : CloudLinkRecordIdentity) (session : CloudLinkSessionBinding)
  | markTransportPublished (identity : CloudLinkRecordIdentity) (session : CloudLinkSessionBinding)
  | acknowledge (ack : CloudLinkDurableAck)
  | rotateStreamEpoch
  deriving DecidableEq, Repr

/-- What a mutating call returns on success. -/
inductive SpoolReply where
  | record (record : CloudLinkRecord)
  | done
  | acknowledged (outcome : DurableAckOutcome)
  | epoch (streamEpoch : ℕ)
  deriving DecidableEq, Repr

/-- The operation on the spool state behind a request. -/
def SpoolRequest.op : SpoolRequest → SpoolOp
  | .enqueue input => .enqueue input
  | .markOffered identity session => .markOffered identity session
  | .markTransportPublished identity session => .markTransportPublished identity session
  | .acknowledge ack => .acknowledge ack
  | .rotateStreamEpoch => .rotateStreamEpoch

/-- The closure a request passes to `mutate`: the reply, the journal entry and the state the
    operation leaves. -/
def perform (state : CloudLinkSpoolState) :
    SpoolRequest → Except CloudLinkSpoolError (SpoolReply × JournalEntry) × CloudLinkSpoolState
  | .enqueue input =>
    match state.enqueue input with
    | (.error e, next) => (.error e, next)
    | (.ok record, next) =>
      (.ok (.record record, .enqueued record next.nextPosition next.dataLoss), next)
  | .markOffered identity session =>
    match state.markOffered identity session with
    | (.error e, next) => (.error e, next)
    | (.ok (), next) => (.ok (.done, .offered identity session), next)
  | .markTransportPublished identity session =>
    match state.markTransportPublished identity session with
    | (.error e, next) => (.error e, next)
    | (.ok (), next) => (.ok (.done, .transportPublished identity session), next)
  | .acknowledge ack =>
    match state.acknowledge ack with
    | (.error e, next) => (.error e, next)
    | (.ok outcome, next) => (.ok (.acknowledged outcome, .acknowledged ack), next)
  | .rotateStreamEpoch =>
    match state.rotateStreamEpoch with
    | (.error e, next) => (.error e, next)
    | (.ok streamEpoch, next) => (.ok (.epoch streamEpoch, .rotated streamEpoch), next)

/-- The entries `apply_entry` counts as mutations. -/
def JournalEntry.IsMutation : JournalEntry → Prop
  | .checkpoint .. | .record _ => False
  | _ => True

variable {next : CloudLinkSpoolState}

theorem applyEntry_of_mutation {path : String} {entry : JournalEntry} (hent : entry.IsMutation)
    {state : CloudLinkSpoolState} (h : applyMutation path state entry = .ok next) (mutations : ℕ)
    (started : Bool) :
    applyEntry path ⟨some state, mutations, started⟩ entry =
      .ok ⟨some next, saturatingAdd mutations 1, true⟩ := by
  cases entry with
  | checkpoint | record => exact absurd hent id
  | _ => simp only [applyEntry, h]

/-! ## Simulation of one operation -/

theorem validatePersistedRecord_ok (path : String) {state : CloudLinkSpoolState}
    {record : CloudLinkRecord} (hid : record.identity.streamId = state.streamId)
    (hep : record.identity.streamEpoch = state.streamEpoch)
    (hpos : 0 < record.identity.position) (hcnt : validateEnqueue record.content = .ok ()) :
    validatePersistedRecord path state record = .ok () := by
  obtain ⟨hbt, hdig, hne, hlen, hexp⟩ := validateEnqueue_ok.1 hcnt
  have hbt' : validIdentifier record.batchId 128 = true := hbt
  unfold validIdentifier at hbt'
  simp only [Bool.and_eq_true, Bool.not_eq_true', List.isEmpty_eq_false_iff,
    decide_eq_true_eq] at hbt'
  obtain ⟨⟨hnonempty, h128⟩, -⟩ := hbt'
  have hexpiry : record.expiresAt.all (· > record.createdAt) = true := by
    cases he : record.expiresAt with
    | none => rfl
    | some expires =>
      have hlt : record.createdAt < expires := hexp expires he
      simpa using hlt
  have hsome : strLen record.batchId ≠ 0 := fun h0 =>
    hnonempty (List.eq_nil_of_length_eq_zero h0)
  unfold validatePersistedRecord
  rw [if_pos ⟨hid, hep, hpos, hsome, h128, hdig, hne, hlen, hexpiry⟩]

section Enqueued

variable {path : String} {state : CloudLinkSpoolState} {input : CloudLinkEnqueue}

theorem validatePersistedRecord_recordFor (path : String) (inv : SpoolInv state)
    (hv : validateEnqueue input = .ok ()) :
    validatePersistedRecord path state (state.recordFor input) = .ok () :=
  validatePersistedRecord_ok path rfl rfl inv.next_pos hv

/-- Replay evicts what the live spool evicted, and takes the evidence from the entry. -/
theorem applyEnqueued_recordFor {evicted : CloudLinkSpoolState} (inv : SpoolInv state)
    (hv : validateEnqueue input = .ok ()) (hnext : state.nextPosition < u64Max)
    (hevicted : replayEviction path state = .ok evicted)
    (dataLoss : Option CloudLinkDataLossEvidence) :
    applyEnqueued path state (state.recordFor input) (state.nextPosition + 1) dataLoss =
      .ok { evicted with
        records := evicted.records.insert state.nextPosition (state.recordFor input)
        nextPosition := state.nextPosition + 1, dataLoss } := by
  have hadd : checkedAdd state.nextPosition 1 = some (state.nextPosition + 1) :=
    checkedAdd_eq_some.2 ⟨hnext, rfl⟩
  have hflds : ¬((state.recordFor input).state ≠ .queued ∨
      (state.recordFor input).offeredSession.isSome ∨
      (state.recordFor input).identity.position ≠ state.nextPosition ∨
      state.nextPosition + 1 ≠ (checkedAdd state.nextPosition 1).getD 0) := by
    rw [hadd]
    simp [recordFor, CloudLinkRecord.fromEnqueue]
  simp only [applyEnqueued, validatePersistedRecord_recordFor path inv hv, if_neg hflds, hevicted]
  rfl

end Enqueued

/-- The entry of a successful `enqueue` that changed something replays to the new state. -/
theorem applyMutation_enqueued {path : String} {state : CloudLinkSpoolState} (inv : SpoolInv state)
    {input : CloudLinkEnqueue} {record : CloudLinkRecord}
    (h : state.enqueue input = (.ok record, next)) :
    ¬state.Exhausts input ∧ (next ≠ state →
      applyMutation path state (.enqueued record next.nextPosition next.dataLoss) = .ok next) := by
  rcases state.enqueue_cases input with ⟨e, he⟩ | ⟨r, -, -, -, -, he⟩ | ⟨-, p, e, -, he⟩ |
    ⟨hv, -, hnext, hroom, he⟩ | ⟨hv, -, hnext, hfull, p, hk, he⟩
  · rw [h] at he; cases he
  · rw [h] at he
    cases he
    refine ⟨?_, fun hne => absurd rfl hne⟩
    intro hex
    obtain ⟨-, hk⟩ := inv.firstKey_of_full hex.2.2.1
    rw [enqueue_of_exhausts hex hk] at h
    cases h
  · rw [h] at he; cases he
  · rw [h] at he
    cases he
    exact ⟨fun hex => hroom hex.2.2.1, fun _ =>
      applyEnqueued_recordFor inv hv hnext (if_neg hroom) _⟩
  · rw [h] at he
    cases he
    refine ⟨fun hex => absurd hex.2.2.2 (by omega), fun _ => ?_⟩
    have hevicted : replayEviction path state = .ok (state.drop p) := by
      rw [replayEviction, if_pos hfull, hk]
      rfl
    rw [recordLoss_nextPosition, applyMutation, added_nextPosition, drop_nextPosition,
      applyEnqueued_recordFor inv hv hnext hevicted]
    rcases ((state.drop p).added input).recordLoss_cases p input.createdAt with
      ⟨_, -, -, -, hloss⟩ | ⟨-, hloss⟩
    · rw [hloss]; rfl
    · rw [hloss]; rfl

/-- What a successful request did: the state is the operation's, and unless nothing changed its
    entry replays to that state. -/
theorem perform_ok (path : String) {state : CloudLinkSpoolState} (inv : SpoolInv state)
    {request : SpoolRequest} {reply : SpoolReply} {entry : JournalEntry}
    (h : perform state request = (.ok (reply, entry), next)) :
    next = step state request.op ∧ ¬request.op.Exhausts state ∧
      (next ≠ state → entry.IsMutation ∧ applyMutation path state entry = .ok next) := by
  cases request with
  | enqueue input =>
    simp only [perform] at h
    split at h
    · cases h
    next record next' heq =>
    cases h
    obtain ⟨hex, happly⟩ := applyMutation_enqueued inv heq
    exact ⟨by rw [SpoolRequest.op, step, heq], hex, fun hne => ⟨trivial, happly hne⟩⟩
  | markOffered | markTransportPublished =>
    simp only [perform] at h
    split at h
    · cases h
    next next' heq =>
    cases h
    exact ⟨by rw [SpoolRequest.op, step, heq], id,
      fun _ => ⟨trivial, by simp only [applyMutation, heq, asCorrupt]⟩⟩
  | acknowledge ack =>
    simp only [perform] at h
    split at h
    · cases h
    next outcome next' heq =>
    cases h
    exact ⟨by rw [SpoolRequest.op, step, heq], id,
      fun _ => ⟨trivial, by simp only [applyMutation, heq, asCorrupt]⟩⟩
  | rotateStreamEpoch =>
    simp only [perform] at h
    split at h
    · cases h
    next streamEpoch next' heq =>
    cases h
    exact ⟨by rw [SpoolRequest.op, step, heq], id,
      fun _ => ⟨trivial, by simp [applyMutation, heq, asCorrupt]⟩⟩

/-- The entry of a capacity change replays to the changed state. -/
theorem applyMutation_capacity (path : String) {state : CloudLinkSpoolState} {streamId : String}
    {capacity : ℕ} {changed : Bool}
    (h : state.validateOpen streamId capacity = (.ok changed, next)) :
    applyMutation path state (.capacity capacity) = .ok next := by
  have hid : state.streamId = streamId := by
    rcases state.validateOpen_cases streamId capacity with ⟨e, he⟩ | ⟨hid, -⟩
    · rw [h] at he; cases he
    · exact hid
  simp only [applyMutation, hid, h, asCorrupt]

/-! ## Replay of a compacted journal -/

section Compacted

variable {state : CloudLinkSpoolState}

/-- Restoring records at new positions inserts them one after the other. -/
theorem restore_records (path : String) (state : CloudLinkSpoolState)
    {entries : List (ℕ × CloudLinkRecord)}
    (hdist : entries.Pairwise (fun a b => a.1 ≠ b.1))
    (hpos : ∀ e ∈ entries, e.2.identity.position = e.1 ∧ e.1 < state.nextPosition)
    (hval : ∀ e ∈ entries, ∀ records,
      validatePersistedRecord path { state with records := records } e.2 = .ok ())
    (acc : ExtTreeMap ℕ CloudLinkRecord) (hfr : ∀ e ∈ entries, e.1 ∉ acc)
    (hsize : acc.size + entries.length ≤ state.capacity) :
    ((entries.map Prod.snd).map JournalEntry.record).foldlM (applyEntry path)
        ⟨some { state with records := acc }, 0, false⟩ =
      .ok ⟨some { state with records := entries.foldl (fun acc e => acc.insert e.1 e.2) acc },
        0, false⟩ := by
  induction entries generalizing acc with
  | nil => rfl
  | cons e entries ih =>
    obtain ⟨hne, hdist⟩ := List.pairwise_cons.1 hdist
    obtain ⟨heq, hlt⟩ := hpos e List.mem_cons_self
    have hmem := hfr e List.mem_cons_self
    have hsize' : (acc.insert e.1 e.2).size = acc.size + 1 := by
      rw [size_insert, if_neg (by simpa using hmem)]
    rw [List.length_cons] at hsize
    have hstep : applyEntry path ⟨some { state with records := acc }, 0, false⟩ (.record e.2) =
        .ok ⟨some { state with records := acc.insert e.1 e.2 }, 0, false⟩ := by
      have hgd : ¬(e.1 ≥ state.nextPosition ∨ e.1 ∈ acc) := by
        rintro (h | h)
        · omega
        · exact hmem h
      have hcap : ¬(acc.insert e.1 e.2).size > state.capacity := by omega
      simp only [applyEntry, restoreCheckpointRecord, hval e List.mem_cons_self, heq,
        if_neg hgd, if_neg hcap, Bool.false_eq_true, ↓reduceIte]
    rw [List.map_cons, List.map_cons, List.foldlM_cons, hstep]
    refine ih hdist (fun e' he' => hpos e' (List.mem_cons_of_mem _ he'))
      (fun e' he' => hval e' (List.mem_cons_of_mem _ he')) (acc.insert e.1 e.2) ?_ ?_
    · intro e' he' hin
      rw [mem_insert, Nat.compare_eq_eq] at hin
      rcases hin with h | h
      · exact hne e' he' h
      · exact hfr e' (List.mem_cons_of_mem _ he') h
    · rw [hsize']; omega

theorem replay_compactedEntries (path : String) (inv : SpoolInv state) :
    (compactedEntries state).foldlM (applyEntry path) ⟨none, 0, false⟩ =
      .ok ⟨some state, 0, false⟩ := by
  have hnew : CloudLinkSpoolState.new state.streamId state.capacity =
      .ok (.initial state.streamId state.capacity) :=
    new_ok.2 ⟨inv.streamId, inv.capacity_pos, inv.capacity_le, rfl⟩
  have hckpt : applyEntry path ⟨none, 0, false⟩ (checkpoint state) =
      .ok ⟨some { state with records := ∅ }, 0, false⟩ := by
    simp only [checkpoint, applyEntry, hnew, asCorrupt]
    rfl
  have hget : ∀ e ∈ state.records.toList, state.records[e.1]? = some e.2 := fun e he =>
    mem_toList_iff_getElem?_eq_some.1 he
  have hrecs := restore_records path state
    (pairwise_fst_ne_toList state.records) ?_ ?_ ∅ ?_ ?_
  · rw [compactedEntries, List.foldlM_cons, hckpt]
    rw [foldl_insert_toList] at hrecs
    exact hrecs
  · intro e he
    rw [inv.identity _ _ (hget e he)]
    exact ⟨rfl, ((inv.contiguous e.1).1 (mem_of_getElem? (hget e he))).2⟩
  · intro e he records
    have hid := inv.identity _ _ (hget e he)
    have hpos := (inv.contiguous e.1).1 (mem_of_getElem? (hget e he))
    have hacked := inv.acked_lt
    refine validatePersistedRecord_ok path ?_ ?_ ?_ (inv.content _ _ (hget e he))
    · rw [hid]
    · rw [hid]
    · rw [hid]; show 0 < e.1; omega
  · intro e _
    exact not_mem_empty
  · rw [length_toList]
    have := inv.size_le
    simpa using this

end Compacted

/-! ## Recovery of a journal -/

/-- What the invariant guarantees is what recovery checks. -/
theorem validateRecoveredState_ok (path : String) {state : CloudLinkSpoolState}
    (inv : SpoolInv state) : validateRecoveredState path state = .ok () := by
  have hack : ackMetadataValid state = true := by
    have h := inv.ack
    unfold AckOk at h
    unfold ackMetadataValid
    cases hl : state.lastAck with
    | none => rw [hl] at h; simpa using h
    | some ack => rw [hl] at h; simpa [and_assoc] using h
  have hrange : ¬(state.records.keys.any fun position =>
      position ≤ state.lastAcknowledgedPosition || position ≥ state.nextPosition) = true := by
    simp only [List.any_eq_true, not_exists, not_and, Bool.or_eq_true, decide_eq_true_eq]
    intro p hp
    have hin := (inv.contiguous p).1 (mem_keys.1 hp)
    have := inv.acked_lt
    omega
  have hloss : ¬state.dataLoss.any (lossMetadataInvalid state) = true := by
    rcases hd : state.dataLoss with _ | ev
    · simp
    have ok := inv.evidence ev hd
    have h1 := ok.first_pos; have h2 := ok.first_le; have h3 := ok.last_lt
    simp only [Option.any_some, lossMetadataInvalid, Bool.or_eq_true, bne_iff_ne, beq_iff_eq,
      decide_eq_true_eq, ok.stream, ok.epoch, ne_eq, not_true_eq_false, false_or]
    omega
  have hcursor : ¬(state.streamEpoch = 0 ∨ state.nextPosition = 0 ∨ state.capacity = 0 ∨
      state.records.size > state.capacity ∨
      state.lastAcknowledgedPosition ≥ state.nextPosition) := by
    have h1 := inv.epoch_pos; have h2 := inv.next_pos; have h3 := inv.capacity_pos
    have h4 := inv.size_le; have h5 := inv.acked_lt; have h6 := inv.earliest_le
    omega
  unfold validateRecoveredState
  rw [if_neg hcursor, if_neg (by simp [hack]), if_neg hrange, if_neg hloss]

section Recover

variable {codec : JournalCodec} {path : String}

/-- The journal holds complete frames only, and they replay to the given state and mutation
    count. -/
def Committed (codec : JournalCodec) (path : String) (file : Bytes) (state : CloudLinkSpoolState)
    (mutations : ℕ) : Prop :=
  ∃ payloads started, file = journalFile path payloads ∧ (∀ bytes ∈ payloads, JournalFits bytes) ∧
    payloads.foldlM (applyPayload codec path) ⟨none, 0, false⟩ = .ok ⟨some state, mutations, started⟩

variable {mutations : ℕ} {file : Bytes} {state : CloudLinkSpoolState}

theorem recover_of_scan {committed : ℕ} {started : Bool} {rest : Bytes}
    (hfile : file = journalMagic ++ rest) (inv : SpoolInv state)
    (hscan : (journalFormat path).scan (applyPayload codec path) ⟨none, 0, false⟩
      journalMagic.length rest = .ok (⟨some state, mutations, started⟩, committed)) :
    recover codec path file = (.ok (state, mutations), file.take committed) := by
  subst hfile
  have hlen : ¬(journalMagic ++ rest).length < journalMagic.length := by
    rw [List.length_append]; omega
  unfold recover
  rw [if_neg hlen, List.take_left, if_neg (by simp), List.drop_left, hscan]
  simp only [validateRecoveredState_ok path inv]

/-- Recovery of a journal that ends with a complete frame. -/
theorem recover_committed (h : Committed codec path file state mutations) (inv : SpoolInv state) :
    recover codec path file = (.ok (state, mutations), file) := by
  obtain ⟨payloads, started, rfl, hfits, hfold⟩ := h
  have hscan := Format.scan_frames (F := journalFormat path) hfits hfold journalMagic.length
  have hfile : journalFile path payloads = journalMagic ++ (journalFormat path).log payloads := rfl
  rw [recover_of_scan hfile inv hscan, hfile, ← List.length_append, List.take_length]

/-- Recovery of a journal that ends inside a frame: the state before that frame, and the file
    cut back to the committed length. -/
theorem recover_torn (h : Committed codec path file state mutations) (inv : SpoolInv state)
    {payload tail : Bytes} (hpay : JournalFits payload) (htail : tail <+: journalFrame payload)
    (hne : tail ≠ journalFrame payload) :
    recover codec path (file ++ tail) = (.ok (state, mutations), file) := by
  obtain ⟨payloads, started, rfl, hfits, hfold⟩ := h
  have hscan := Format.scan_torn (F := journalFormat path) hfits hfold journalMagic.length hpay
    htail hne
  have hfile : journalFile path payloads ++ tail =
      journalMagic ++ ((journalFormat path).log payloads ++ tail) := List.append_assoc _ _ _
  rw [recover_of_scan hfile inv hscan, ← List.length_append]
  exact congrArg _ (List.take_left ..)

theorem Committed.append {payload : Bytes} {entry : JournalEntry}
    (h : Committed codec path file state mutations) (hcod : codec.RoundTrips)
    (hpay : entryPayload codec entry = .ok payload) (hent : entry.IsMutation)
    (happly : applyMutation path state entry = .ok next) :
    Committed codec path (file ++ journalFrame payload) next (saturatingAdd mutations 1) := by
  obtain ⟨payloads, started, rfl, hfits, hfold⟩ := h
  obtain ⟨hvec, hfit⟩ := entryPayload_ok hpay
  refine ⟨payloads ++ [payload], true, ?_, ?_, ?_⟩
  · rw [journalFile, journalFile, Format.log_append, Format.log_singleton, List.append_assoc]
    rfl
  · intro bytes hb
    rcases List.mem_append.1 hb with hb | hb
    · exact hfits bytes hb
    · rw [List.mem_singleton.1 hb]; exact hfit
  · have hlast : applyPayload codec path ⟨some state, mutations, started⟩ payload =
        .ok ⟨some next, saturatingAdd mutations 1, true⟩ := by
      rw [applyPayload, hcod entry payload hvec]
      exact applyEntry_of_mutation hent happly mutations started
    rw [List.foldlM_append, hfold]
    show [payload].foldlM (applyPayload codec path) ⟨some state, mutations, started⟩ = _
    rw [List.foldlM_cons, hlast]
    rfl

/-- Replaying serialized entries is replaying the entries. -/
theorem foldlM_applyPayload (path : String) (hcod : codec.RoundTrips) {entries : List JournalEntry}
    {payloads : List Bytes} (h : entries.mapM (entryPayload codec) = .ok payloads)
    (recovery : Recovery) :
    payloads.foldlM (applyPayload codec path) recovery =
        entries.foldlM (applyEntry path) recovery ∧
      ∀ bytes ∈ payloads, JournalFits bytes := by
  induction entries generalizing payloads recovery with
  | nil =>
    cases h
    exact ⟨rfl, by simp⟩
  | cons entry entries ih =>
    rw [List.mapM_cons] at h
    rcases hp : entryPayload codec entry with e | payload
    · rw [hp] at h; cases h
    rcases hps : entries.mapM (entryPayload codec) with e | rest
    · rw [hp, hps] at h; cases h
    rw [hp, hps] at h
    cases h
    obtain ⟨hvec, hfit⟩ := entryPayload_ok hp
    have hone : ∀ r, applyPayload codec path r payload = applyEntry path r entry := by
      intro r
      rw [applyPayload, hcod entry payload hvec]
    refine ⟨?_, ?_⟩
    · rw [List.foldlM_cons, List.foldlM_cons, hone]
      congr 1
      funext r
      exact (ih hps r).1
    · intro bytes hb
      rcases List.mem_cons.1 hb with rfl | hb
      · exact hfit
      · exact (ih hps recovery).2 bytes hb

theorem committed_compactedJournal (hcod : codec.RoundTrips) (inv : SpoolInv state)
    (h : compactedJournal codec path state = .ok file) : Committed codec path file state 0 := by
  unfold compactedJournal at h
  split at h
  · cases h
  next payloads hp =>
  cases h
  obtain ⟨hfold, hfits⟩ := foldlM_applyPayload path hcod hp ⟨none, 0, false⟩
  exact ⟨payloads, false, rfl, hfits, hfold.trans (replay_compactedEntries path inv)⟩

end Recover

end AetherEdge.CloudLink
