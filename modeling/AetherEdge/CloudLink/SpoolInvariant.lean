import AetherEdge.CloudLink.Spool

/-!
# The invariant of the CloudLink spool

`SpoolInv` is kept by every operation of `CloudLinkSpoolState` except one: an `enqueue`
that evicts from a full spool and then finds the position counter exhausted
(`Exhausts`). It returns an error, but the evicted record is gone and no loss evidence
was written.

* `step_cases`: everything one operation can do;
* `step_inv`: the invariant is kept by every other step, so along every run that never
  exhausts (`Transition.EveryStep.invariant`);
* `not_lossCovered_of_exhausts`: the one exception really breaks it.
-/

namespace AetherEdge.CloudLink

open OrderedMap Transition CloudLinkSpoolState Std.ExtTreeMap
open Std (ExtTreeMap)

namespace CloudLinkSpoolState

/-! ## What an operation can do -/

/-- The record `enqueue` builds for a new batch. -/
def recordFor (state : CloudLinkSpoolState) (input : CloudLinkEnqueue) : CloudLinkRecord :=
  .fromEnqueue ⟨state.streamId, state.streamEpoch, state.nextPosition⟩ input

/-- The state after a new batch took the next position. -/
@[simps]
def added (state : CloudLinkSpoolState) (input : CloudLinkEnqueue) : CloudLinkSpoolState :=
  { state with
    nextPosition := state.nextPosition + 1
    records := state.records.insert state.nextPosition (state.recordFor input) }

/-- The state after the record at `position` was dropped. -/
@[simps]
def drop (state : CloudLinkSpoolState) (position : ℕ) : CloudLinkSpoolState :=
  { state with records := state.records.erase position }

/-- `enqueue` reaches the eviction with a full spool and no position left. -/
def Exhausts (state : CloudLinkSpoolState) (input : CloudLinkEnqueue) : Prop :=
  validateEnqueue input = .ok () ∧ state.findBatch input.batchId = none ∧
    state.records.size = state.capacity ∧ u64Max ≤ state.nextPosition

instance (state : CloudLinkSpoolState) (input : CloudLinkEnqueue) :
    Decidable (state.Exhausts input) :=
  inferInstanceAs (Decidable (_ ∧ _ ∧ _ ∧ _))

theorem findBatch_eq_none {state : CloudLinkSpoolState} {batchId : String} :
    state.findBatch batchId = none ↔
      ∀ (p : ℕ) r, state.records[p]? = some r → r.batchId ≠ batchId := by
  simp only [findBatch, List.find?_eq_none, mem_values, beq_iff_eq]
  exact ⟨fun h p r hr => h r ⟨p, hr⟩, fun h r ⟨p, hr⟩ => h p r hr⟩

theorem findBatch_eq_some {state : CloudLinkSpoolState} {batchId : String} {r : CloudLinkRecord}
    (h : state.findBatch batchId = some r) :
    r.batchId = batchId ∧ ∃ p : ℕ, state.records[p]? = some r :=
  ⟨by simpa using List.find?_some h, mem_values.1 (List.mem_of_find?_eq_some h)⟩

section EnqueueEquations

variable {state : CloudLinkSpoolState} {input : CloudLinkEnqueue}

theorem evict_of_full (hfull : state.records.size = state.capacity) {p : ℕ}
    (hk : firstKey state.records = some p) : state.evict = (.ok (some p), state.drop p) := by
  simp only [evict, if_pos hfull, hk, drop]

section

variable (hv : validateEnqueue input = .ok ()) (hf : state.findBatch input.batchId = none)
  (hnext : state.nextPosition < u64Max)

include hv hf hnext

theorem enqueue_of_room (hroom : state.records.size ≠ state.capacity) :
    state.enqueue input = (.ok (state.recordFor input), state.added input) := by
  have hev : state.evict = (.ok none, state) := by simp only [evict, if_neg hroom]
  have hadd : checkedAdd state.nextPosition 1 = some (state.nextPosition + 1) :=
    checkedAdd_eq_some.2 ⟨hnext, rfl⟩
  simp only [enqueue, hv, hf, hev, hadd]
  rfl

theorem enqueue_of_full (hfull : state.records.size = state.capacity) {p : ℕ}
    (hk : firstKey state.records = some p) :
    state.enqueue input = (.ok (state.recordFor input),
      ((state.drop p).added input).recordLoss p input.createdAt) := by
  have hadd : checkedAdd (state.drop p).nextPosition 1 = some (state.nextPosition + 1) :=
    checkedAdd_eq_some.2 ⟨hnext, rfl⟩
  simp only [enqueue, hv, hf, evict_of_full hfull hk, hadd]
  rfl

end

/-- The failing branch that has already evicted. -/
theorem enqueue_of_exhausts (hex : state.Exhausts input) {p : ℕ}
    (hk : firstKey state.records = some p) :
    state.enqueue input =
      (.error (spoolError .storage "CloudLink stream position exhausted uint64"),
        state.drop p) := by
  obtain ⟨hv, hf, hfull, hmax⟩ := hex
  have hadd : checkedAdd (state.drop p).nextPosition 1 = none :=
    checkedAdd_eq_none.2 (Nat.lt_succ_of_le hmax)
  simp only [enqueue, hv, hf, evict_of_full hfull hk, hadd]

end EnqueueEquations

/-- Everything `enqueue` can do: fail without a change, find the batch retained, evict and
    then fail, append, or evict and append. -/
theorem enqueue_cases (state : CloudLinkSpoolState) (input : CloudLinkEnqueue) :
    (∃ e, state.enqueue input = (.error e, state)) ∨
    (∃ r, state.findBatch input.batchId = some r ∧ r.digest = input.digest ∧
      r.messageKind = input.messageKind ∧ r.payload = input.payload ∧
      state.enqueue input = (.ok r, state)) ∨
    (state.Exhausts input ∧ ∃ p e, firstKey state.records = some p ∧
      state.enqueue input = (.error e, state.drop p)) ∨
    (validateEnqueue input = .ok () ∧ state.findBatch input.batchId = none ∧
      state.nextPosition < u64Max ∧ state.records.size ≠ state.capacity ∧
      state.enqueue input = (.ok (state.recordFor input), state.added input)) ∨
    (validateEnqueue input = .ok () ∧ state.findBatch input.batchId = none ∧
      state.nextPosition < u64Max ∧ state.records.size = state.capacity ∧
      ∃ p, firstKey state.records = some p ∧
        state.enqueue input = (.ok (state.recordFor input),
          ((state.drop p).added input).recordLoss p input.createdAt)) := by
  rcases hv : validateEnqueue input with e | u
  · exact .inl ⟨e, by simp [enqueue, hv]⟩
  cases hf : state.findBatch input.batchId with
  | some r =>
    by_cases hsame : r.digest = input.digest ∧ r.messageKind = input.messageKind ∧
        r.payload = input.payload
    · obtain ⟨h1, h2, h3⟩ := hsame
      exact .inr (.inl ⟨r, rfl, h1, h2, h3, by simp [enqueue, hv, hf, h1, h2, h3]⟩)
    · exact .inl ⟨_, by rw [enqueue, hv]; simp only [hf]; rw [if_neg hsame]⟩
  | none =>
    by_cases hfull : state.records.size = state.capacity
    · rcases hk : firstKey state.records with _ | p
      · exact .inl ⟨_, by simp only [enqueue, hv, hf, evict, if_pos hfull, hk]; rfl⟩
      by_cases hmax : u64Max ≤ state.nextPosition
      · have hex : state.Exhausts input := ⟨hv, hf, hfull, hmax⟩
        exact .inr (.inr (.inl ⟨hex, p, _, rfl, enqueue_of_exhausts hex hk⟩))
      · have hnext : state.nextPosition < u64Max := by omega
        exact .inr (.inr (.inr (.inr
          ⟨rfl, rfl, hnext, hfull, p, rfl, enqueue_of_full hv hf hnext hfull hk⟩)))
    · by_cases hmax : u64Max ≤ state.nextPosition
      · have hev : state.evict = (.ok none, state) := by simp only [evict, if_neg hfull]
        have hadd : checkedAdd state.nextPosition 1 = none := checkedAdd_eq_none.2 (by omega)
        exact .inl ⟨_, by simp only [enqueue, hv, hf, hev, hadd]; rfl⟩
      · have hnext : state.nextPosition < u64Max := by omega
        exact .inr (.inr (.inr (.inl
          ⟨rfl, rfl, hnext, hfull, enqueue_of_room hv hf hnext hfull⟩)))

theorem recordMut_ok {state : CloudLinkSpoolState} {identity : CloudLinkRecordIdentity}
    {r : CloudLinkRecord} (h : state.recordMut identity = .ok r) :
    identity.streamId = state.streamId ∧ identity.streamEpoch = state.streamEpoch ∧
      state.records[identity.position]? = some r := by
  unfold recordMut at h
  split_ifs at h with hid
  simp only [not_or, not_not] at hid
  cases hr : state.records[identity.position]? with
  | none => simp [hr] at h
  | some r' =>
    simp only [hr, Except.ok.injEq] at h
    exact ⟨hid.1, hid.2, by rw [h]⟩

theorem markOffered_cases (state : CloudLinkSpoolState) (identity : CloudLinkRecordIdentity)
    (session : CloudLinkSessionBinding) :
    (∃ e, state.markOffered identity session = (.error e, state)) ∨
    (∃ r, state.recordMut identity = .ok r ∧ state.markOffered identity session =
      (.ok (), state.writeRecord identity.position (r.setOffered session))) := by
  unfold markOffered
  cases validateSession session with
  | error e => exact .inl ⟨e, rfl⟩
  | ok u =>
    cases state.recordMut identity with
    | error e => exact .inl ⟨e, rfl⟩
    | ok r => exact .inr ⟨r, rfl, rfl⟩

theorem markTransportPublished_cases (state : CloudLinkSpoolState)
    (identity : CloudLinkRecordIdentity) (session : CloudLinkSessionBinding) :
    (∃ e, state.markTransportPublished identity session = (.error e, state)) ∨
    (∃ r, state.recordMut identity = .ok r ∧ state.markTransportPublished identity session =
      (.ok (), state.writeRecord identity.position (r.setTransportPublished session))) := by
  unfold markTransportPublished
  rcases validateSession session with e | u
  · exact .inl ⟨e, rfl⟩
  rcases state.recordMut identity with e | r
  · exact .inl ⟨e, rfl⟩
  simp only
  split_ifs with hs
  · exact .inl ⟨_, rfl⟩
  · exact .inr ⟨r, rfl, rfl⟩

/-- What an accepted receipt has been checked against. -/
theorem checkAck_ok {state : CloudLinkSpoolState} {ack : CloudLinkDurableAck}
    (h : state.checkAck ack = .ok ()) :
    ack.streamId = state.streamId ∧ ack.streamEpoch = state.streamEpoch ∧
      state.lastAcknowledgedPosition < ack.acknowledgedPosition ∧
      ∃ r, state.records[ack.acknowledgedPosition]? = some r ∧
        r.offeredSession = some ack.session ∧ r.batchId = ack.batchId ∧ r.digest = ack.digest := by
  unfold checkAck at h
  split_ifs at h with h1 h2 h3
  simp only [not_or, not_not] at h1
  rcases hr : state.records[ack.acknowledgedPosition]? with _ | r
  · simp [hr] at h
  simp only [hr] at h
  split_ifs at h with h4 h5
  simp only [not_or, not_not] at h4 h5
  exact ⟨h1.1, h1.2, by omega, r, rfl, h4, h5.1, h5.2⟩

theorem acknowledge_cases (state : CloudLinkSpoolState) (ack : CloudLinkDurableAck) :
    (∃ e, state.acknowledge ack = (.error e, state)) ∨
    (state.lastAck = some ack ∧ state.acknowledge ack = (.ok .duplicate, state)) ∨
    (state.checkAck ack = .ok () ∧ state.acknowledge ack =
      (.ok (.applied (rangeTo state.records ack.acknowledgedPosition).length),
        state.applyAck ack)) := by
  unfold acknowledge
  rcases validateSession ack.session with e | u
  · exact .inl ⟨e, rfl⟩
  simp only
  split_ifs with hdup
  · exact .inr (.inl ⟨hdup, rfl⟩)
  · cases state.checkAck ack with
    | error e => exact .inl ⟨e, rfl⟩
    | ok u => exact .inr (.inr ⟨rfl, rfl⟩)

theorem rotateStreamEpoch_cases (state : CloudLinkSpoolState) :
    (∃ e, state.rotateStreamEpoch = (.error e, state)) ∨
    (state.records = ∅ ∧ state.streamEpoch < u64Max ∧ state.rotateStreamEpoch =
      (.ok (state.streamEpoch + 1), state.beginEpoch (state.streamEpoch + 1))) := by
  unfold rotateStreamEpoch
  split_ifs with hemp
  · exact .inl ⟨_, rfl⟩
  have hemp' : state.records = ∅ := by
    rw [← ExtTreeMap.isEmpty_iff]; simpa using hemp
  cases hadd : checkedAdd state.streamEpoch 1 with
  | none => exact .inl ⟨_, rfl⟩
  | some epoch =>
    obtain ⟨hle, rfl⟩ := checkedAdd_eq_some.1 hadd
    exact .inr ⟨hemp', by omega, rfl⟩

theorem validateOpen_cases (state : CloudLinkSpoolState) (streamId : String) (capacity : ℕ) :
    (∃ e, state.validateOpen streamId capacity = (.error e, state)) ∨
    (state.streamId = streamId ∧ 0 < capacity ∧ capacity ≤ maxSpoolRecords ∧
      state.records.size ≤ capacity ∧ state.validateOpen streamId capacity =
      (.ok (decide (state.capacity ≠ capacity)), { state with capacity := capacity })) := by
  unfold validateOpen
  rcases validateStreamId streamId with e | u
  · exact .inl ⟨e, rfl⟩
  simp only
  split_ifs with h1 h2
  · exact .inl ⟨_, rfl⟩
  · exact .inl ⟨_, rfl⟩
  · exact .inr ⟨not_not.1 h1, by omega, by omega, by omega, rfl⟩

/-- What `recordLoss` writes: evidence ending at the lost position, either extending the
    evidence that ended just before it or starting there. -/
theorem recordLoss_cases (state : CloudLinkSpoolState) (lost : ℕ) (recordedAt : UInt64) :
    (∃ old, state.dataLoss = some old ∧ old.streamEpoch = state.streamEpoch ∧
      old.lastLostPosition + 1 = lost ∧ state.recordLoss lost recordedAt =
        { state with dataLoss := some (old.extendOverflow lost state.earliest) }) ∨
    ((∀ old, state.dataLoss = some old → old.streamEpoch = state.streamEpoch →
        u64Max < old.lastLostPosition + 1 ∨ old.lastLostPosition + 1 ≠ lost) ∧
      state.recordLoss lost recordedAt =
        { state with dataLoss := some (state.freshEvidence lost recordedAt) }) := by
  unfold recordLoss
  rcases hd : state.dataLoss with _ | old
  · exact .inr ⟨fun old h => by simp at h, rfl⟩
  simp only
  split_ifs with hm
  · obtain ⟨-, hlast⟩ := checkedAdd_eq_some.1 hm.2
    exact .inl ⟨old, rfl, hm.1, hlast.symm, rfl⟩
  refine .inr ⟨fun old' h hep => ?_, rfl⟩
  cases h
  by_contra hcon
  simp only [not_or, not_lt, not_not] at hcon
  exact hm ⟨hep, checkedAdd_eq_some.2 ⟨hcon.1, hcon.2.symm⟩⟩

section RecordLossFields

variable (state : CloudLinkSpoolState) (lost : ℕ) (recordedAt : UInt64)

@[simp] theorem recordLoss_records : (state.recordLoss lost recordedAt).records = state.records := by
  rcases state.recordLoss_cases lost recordedAt with ⟨_, -, -, -, h⟩ | ⟨-, h⟩ <;> rw [h]

@[simp] theorem recordLoss_streamEpoch :
    (state.recordLoss lost recordedAt).streamEpoch = state.streamEpoch := by
  rcases state.recordLoss_cases lost recordedAt with ⟨_, -, -, -, h⟩ | ⟨-, h⟩ <;> rw [h]

@[simp] theorem recordLoss_nextPosition :
    (state.recordLoss lost recordedAt).nextPosition = state.nextPosition := by
  rcases state.recordLoss_cases lost recordedAt with ⟨_, -, -, -, h⟩ | ⟨-, h⟩ <;> rw [h]

@[simp] theorem recordLoss_capacity :
    (state.recordLoss lost recordedAt).capacity = state.capacity := by
  rcases state.recordLoss_cases lost recordedAt with ⟨_, -, -, -, h⟩ | ⟨-, h⟩ <;> rw [h]

end RecordLossFields

/-! ## The invariant -/

/-- The retained positions are exactly the interval `[earliest, next_position)`. -/
def Contiguous (state : CloudLinkSpoolState) : Prop :=
  ∀ p, p ∈ state.records ↔ state.earliest ≤ p ∧ p < state.nextPosition

/-- Every position between the acknowledged prefix and the first retained record is covered
    by loss evidence of the current epoch. -/
def LossCovered (state : CloudLinkSpoolState) : Prop :=
  ∀ p, state.lastAcknowledgedPosition < p → p < state.earliest →
    ∃ ev, state.dataLoss = some ev ∧ ev.streamEpoch = state.streamEpoch ∧
      ev.firstLostPosition ≤ p ∧ p ≤ ev.lastLostPosition

/-- Loss evidence that names this stream and epoch and a proper range below what is
    retained now and what was retained when it was written. -/
structure EvidenceOk (state : CloudLinkSpoolState) (ev : CloudLinkDataLossEvidence) : Prop where
  stream : ev.streamId = state.streamId
  epoch : ev.streamEpoch = state.streamEpoch
  first_pos : 0 < ev.firstLostPosition
  first_le : ev.firstLostPosition ≤ ev.lastLostPosition
  last_lt : ev.lastLostPosition < ev.earliestRetainedPosition
  below : ev.lastLostPosition < state.earliest

/-- The acknowledgement cursor agrees with the retained receipt. -/
def AckOk (state : CloudLinkSpoolState) : Prop :=
  match state.lastAck with
  | none => state.lastAcknowledgedPosition = 0
  | some ack => ack.streamId = state.streamId ∧ ack.streamEpoch = state.streamEpoch ∧
      ack.acknowledgedPosition = state.lastAcknowledgedPosition

end CloudLinkSpoolState

/-- What every operation keeps. -/
structure SpoolInv (state : CloudLinkSpoolState) : Prop where
  streamId : validIdentifier state.streamId 128 = true
  capacity_pos : 0 < state.capacity
  capacity_le : state.capacity ≤ maxSpoolRecords
  size_le : state.records.size ≤ state.capacity
  epoch_pos : 0 < state.streamEpoch
  epoch_le : state.streamEpoch ≤ u64Max
  next_le : state.nextPosition ≤ u64Max
  contiguous : state.Contiguous
  acked_lt : state.lastAcknowledgedPosition < state.earliest
  /-- Either nothing was lost since the acknowledged prefix, or the evidence reaches from it
      up to the first retained position. -/
  loss : state.earliest = state.lastAcknowledgedPosition + 1 ∨
    ∃ ev, state.dataLoss = some ev ∧
      ev.firstLostPosition ≤ state.lastAcknowledgedPosition + 1 ∧
      ev.lastLostPosition + 1 = state.earliest
  evidence : ∀ ev, state.dataLoss = some ev → state.EvidenceOk ev
  ack : state.AckOk
  identity : ∀ (p : ℕ) r, state.records[p]? = some r →
    r.identity = ⟨state.streamId, state.streamEpoch, p⟩
  content : ∀ (p : ℕ) r, state.records[p]? = some r → validateEnqueue r.content = .ok ()
  unique : ∀ (p q : ℕ) r r', state.records[p]? = some r → state.records[q]? = some r' →
    r.batchId = r'.batchId → p = q

section

variable {input : CloudLinkEnqueue} (s : CloudLinkSpoolState)

theorem getElem?_added (p : ℕ) :
    (s.added input).records[p]? =
      if s.nextPosition = p then some (s.recordFor input) else s.records[p]? :=
  getElem?_insert_nat _ _ _ _

theorem getElem?_drop (q p : ℕ) : (s.drop q).records[p]? = if q = p then none else s.records[p]? :=
  getElem?_erase_nat _ _ _

theorem mem_added (p : ℕ) : p ∈ (s.added input).records ↔ p = s.nextPosition ∨ p ∈ s.records := by
  rw [added_records, mem_insert, Nat.compare_eq_eq, eq_comm]

theorem mem_drop (q p : ℕ) : p ∈ (s.drop q).records ↔ p ≠ q ∧ p ∈ s.records := by
  rw [drop_records, mem_erase, ne_eq, Nat.compare_eq_eq, eq_comm]

end

theorem getElem?_applyAck (state : CloudLinkSpoolState) (ack : CloudLinkDurableAck) (p : ℕ) :
    (state.applyAck ack).records[p]? =
      if p ≤ ack.acknowledgedPosition then none else state.records[p]? := by
  simp only [applyAck, getElem?_eraseAll, mem_rangeTo]
  by_cases hp : p ≤ ack.acknowledgedPosition
  · by_cases hm : p ∈ state.records
    · simp [hp, hm]
    · have : state.records[p]? = none := getElem?_eq_none hm
      simp [hp, this]
  · simp [hp]

namespace CloudLinkSpoolState

/-! ## The retained interval -/

/-- The retained positions are the interval `[a, next_position)`. -/
structure Spans (state : CloudLinkSpoolState) (a : ℕ) : Prop where
  le : a ≤ state.nextPosition
  mem : ∀ p, p ∈ state.records ↔ a ≤ p ∧ p < state.nextPosition

section Spans

variable {state : CloudLinkSpoolState} {a : ℕ}

theorem spans_of_empty (hemp : state.records = ∅) : state.Spans state.nextPosition where
  le := le_rfl
  mem p := by
    simp only [hemp, not_mem_empty, false_iff]
    omega

theorem Contiguous.spans (h : state.Contiguous) : state.Spans state.earliest where
  le := by
    unfold earliest
    cases hk : firstKey state.records with
    | none => exact le_rfl
    | some k => exact ((h k).1 (firstKey_nat.1 hk).1).2.le
  mem := h

namespace Spans

variable (h : state.Spans a)

include h

/-- `earliest` is the lower end of the retained interval. -/
theorem earliest_eq : state.earliest = a := by
  unfold earliest
  rcases Nat.eq_or_lt_of_le h.le with heq | hlt
  · have hemp : firstKey state.records = none := by
      rw [firstKey_eq_none, eq_empty_iff_forall_not_mem]
      intro p hp
      have := (h.mem p).1 hp
      omega
    rw [hemp, heq]; rfl
  · rw [firstKey_of_interval h.mem hlt]; rfl

theorem contiguous : state.Contiguous := by
  intro p
  rw [h.earliest_eq]
  exact h.mem p

theorem added (input : CloudLinkEnqueue) : (state.added input).Spans a where
  le := Nat.le_succ_of_le h.le
  mem p := by
    have hle := h.le
    rw [mem_added, h.mem, added_nextPosition]
    omega

/-- Dropping the first record moves the lower end up by one. -/
theorem drop (hlt : a < state.nextPosition) : (state.drop a).Spans (a + 1) where
  le := hlt
  mem p := by
    rw [mem_drop, h.mem, drop_nextPosition]
    omega

theorem writeRecord {p : ℕ} (hp : p ∈ state.records) (r : CloudLinkRecord) :
    (state.writeRecord p r).Spans a where
  le := h.le
  mem q := by
    show q ∈ state.records.insert p r ↔ a ≤ q ∧ q < state.nextPosition
    rw [mem_insert, Nat.compare_eq_eq, h.mem]
    have := (h.mem p).1 hp
    omega

/-- A cumulative acknowledgement keeps exactly what follows the acknowledged position. -/
theorem applyAck {ack : CloudLinkDurableAck} (hack : ack.acknowledgedPosition ∈ state.records) :
    (state.applyAck ack).Spans (ack.acknowledgedPosition + 1) where
  le := ((h.mem _).1 hack).2
  mem p := by
    have hnext : (state.applyAck ack).nextPosition = state.nextPosition := rfl
    have hpos := (h.mem _).1 hack
    rw [mem_iff_getElem?, getElem?_applyAck, hnext]
    split_ifs with hp
    · simp only [exists_false, false_iff]; omega
    · rw [← mem_iff_getElem?, h.mem]; omega

end Spans

end Spans

end CloudLinkSpoolState

namespace SpoolInv

variable {state : CloudLinkSpoolState}

variable (inv : SpoolInv state)

include inv

theorem earliest_le : state.earliest ≤ state.nextPosition := inv.contiguous.spans.le

theorem next_pos : 0 < state.nextPosition := by
  have := inv.acked_lt; have := inv.earliest_le; omega

theorem size_eq : state.records.size = state.nextPosition - state.earliest :=
  size_of_interval inv.contiguous

/-- A full spool retains something, and its first key is `earliest`. -/
theorem firstKey_of_full (hfull : state.records.size = state.capacity) :
    state.earliest < state.nextPosition ∧ firstKey state.records = some state.earliest := by
  have hlt : state.earliest < state.nextPosition := by
    have := inv.size_eq; have := inv.capacity_pos; omega
  exact ⟨hlt, firstKey_of_interval inv.contiguous hlt⟩

theorem not_mem_next : state.nextPosition ∉ state.records := by
  rw [inv.contiguous]; omega

theorem lossCovered : state.LossCovered := by
  intro p hlo hhi
  rcases inv.loss with h | ⟨ev, hev, hfst, hlast⟩
  · omega
  · exact ⟨ev, hev, (inv.evidence ev hev).epoch, by omega, by omega⟩

end SpoolInv

/-! ## Preservation -/

/-- What the invariant says of the retained records. -/
structure RecordsOk (s : CloudLinkSpoolState) : Prop where
  identity : ∀ (p : ℕ) r, s.records[p]? = some r → r.identity = ⟨s.streamId, s.streamEpoch, p⟩
  content : ∀ (p : ℕ) r, s.records[p]? = some r → validateEnqueue r.content = .ok ()
  unique : ∀ (p q : ℕ) r r', s.records[p]? = some r → s.records[q]? = some r' →
    r.batchId = r'.batchId → p = q

theorem recordsOk_of_empty {s : CloudLinkSpoolState} (h : s.records = ∅) : RecordsOk s := by
  constructor <;> simp [h]

/-- It holds of records with the identities and the contents of such. -/
theorem SpoolInv.recordsOk {s s' : CloudLinkSpoolState} (inv : SpoolInv s)
    (hstr : s'.streamId = s.streamId) (hep : s'.streamEpoch = s.streamEpoch)
    (hback : ∀ (q : ℕ) x, s'.records[q]? = some x →
      ∃ y, s.records[q]? = some y ∧ x.identity = y.identity ∧ x.content = y.content) :
    RecordsOk s' where
  identity q x hx := by
    obtain ⟨y, hy, h, -⟩ := hback q x hx
    rw [h, inv.identity q y hy, hstr, hep]
  content q x hx := by
    obtain ⟨y, hy, -, h⟩ := hback q x hx
    rw [h]; exact inv.content q y hy
  unique q q' x x' hx hx' hb := by
    obtain ⟨y, hy, -, h⟩ := hback q x hx
    obtain ⟨y', hy', -, h'⟩ := hback q' x' hx'
    have e : x.batchId = y.batchId := congrArg CloudLinkEnqueue.batchId h
    have e' : x'.batchId = y'.batchId := congrArg CloudLinkEnqueue.batchId h'
    exact inv.unique q q' y y' hy hy' (by rw [← e, ← e', hb])

theorem inv_new {streamId : String} {capacity : ℕ} {state : CloudLinkSpoolState}
    (h : CloudLinkSpoolState.new streamId capacity = .ok state) : SpoolInv state := by
  obtain ⟨hid, hpos, hle, rfl⟩ := new_ok.1 h
  have hsp : (CloudLinkSpoolState.initial streamId capacity).Spans 1 := spans_of_empty rfl
  have hearl := hsp.earliest_eq
  exact
    { recordsOk_of_empty rfl with
      streamId := hid
      capacity_pos := hpos
      capacity_le := hle
      size_le := Nat.zero_le _
      epoch_pos := Nat.one_pos
      epoch_le := (by decide : 1 ≤ u64Max)
      next_le := (by decide : 1 ≤ u64Max)
      contiguous := hsp.contiguous
      acked_lt := by rw [hearl]; exact Nat.one_pos
      loss := .inl hearl
      evidence := fun ev hev => by cases hev
      ack := rfl }

section Enqueue

variable {state : CloudLinkSpoolState} {input : CloudLinkEnqueue}

/-- Admitting a new batch keeps identities, contents and the uniqueness of batch ids. -/
theorem RecordsOk.added {s : CloudLinkSpoolState} (h : RecordsOk s)
    (hv : validateEnqueue input = .ok ())
    (hfr : ∀ (p : ℕ) r, s.records[p]? = some r → r.batchId ≠ input.batchId) :
    RecordsOk (s.added input) := by
  have hold : ∀ (p : ℕ) r, (s.added input).records[p]? = some r →
      r.identity = ⟨s.streamId, s.streamEpoch, p⟩ ∧ validateEnqueue r.content = .ok () := by
    intro p r hr
    rw [getElem?_added] at hr
    split_ifs at hr with hp
    · cases hr
      subst hp
      exact ⟨rfl, hv⟩
    · exact ⟨h.identity p r hr, h.content p r hr⟩
  refine ⟨fun p r hr => (hold p r hr).1, fun p r hr => (hold p r hr).2, ?_⟩
  · intro p q r r' hr hr' hb
    rw [getElem?_added] at hr hr'
    split_ifs at hr hr' with hp hq hq
    · omega
    · cases hr
      exact absurd hb.symm (hfr q r' hr')
    · cases hr'
      exact absurd hb (hfr p r hr)
    · exact h.unique p q r r' hr hr' hb

theorem inv_added (inv : SpoolInv state) (hv : validateEnqueue input = .ok ())
    (hf : state.findBatch input.batchId = none) (hnext : state.nextPosition < u64Max)
    (hroom : state.records.size ≠ state.capacity) : SpoolInv (state.added input) := by
  have hsp := inv.contiguous.spans.added input
  have hearl := hsp.earliest_eq
  have hrecs : RecordsOk state := { inv with }
  exact
    { hrecs.added hv (findBatch_eq_none.1 hf), inv with
      size_le := by
        have hsize := size_of_interval hsp.mem
        have := inv.size_eq; have := inv.size_le
        rw [added_nextPosition] at hsize
        rw [added_capacity]
        omega
      next_le := hnext
      contiguous := hsp.contiguous
      acked_lt := by rw [hearl]; exact inv.acked_lt
      loss := by rw [hearl]; exact inv.loss
      evidence := fun ev hev =>
        { inv.evidence ev hev with
          below := by rw [hearl]; exact (inv.evidence ev hev).below } }

/-- Evicting the first record moves the retained interval up by one at both ends. -/
theorem spans_evicted (input : CloudLinkEnqueue) (inv : SpoolInv state)
    (hfull : state.records.size = state.capacity) :
    ((state.drop state.earliest).added input).Spans (state.earliest + 1) :=
  (inv.contiguous.spans.drop (inv.firstKey_of_full hfull).1).added input

/-- The evidence written for an evicted position: it ends there, and it reaches back to the
    acknowledged prefix. -/
theorem evidence_evicted (input : CloudLinkEnqueue) (inv : SpoolInv state)
    (hfull : state.records.size = state.capacity) :
    ∃ ev, ((state.drop state.earliest).added input).recordLoss state.earliest input.createdAt =
        { (state.drop state.earliest).added input with dataLoss := some ev } ∧
      ((state.drop state.earliest).added input).EvidenceOk ev ∧
      ev.firstLostPosition ≤ state.lastAcknowledgedPosition + 1 ∧
      ev.lastLostPosition = state.earliest := by
  have hearl := (spans_evicted input inv hfull).earliest_eq
  set mid := (state.drop state.earliest).added input
  rcases mid.recordLoss_cases state.earliest input.createdAt with
    ⟨old, hold, -, hend, heq⟩ | ⟨hno, heq⟩
  · replace hold : state.dataLoss = some old := hold
    have ok := inv.evidence old hold
    refine ⟨_, heq, ⟨ok.stream, ok.epoch, ok.first_pos, ?_, ?_, ?_⟩, ?_, rfl⟩
    · have := ok.first_le; simp only [CloudLinkDataLossEvidence.extendOverflow]; omega
    · simp only [CloudLinkDataLossEvidence.extendOverflow, hearl]; omega
    · simp only [CloudLinkDataLossEvidence.extendOverflow, hearl]; omega
    · simp only [CloudLinkDataLossEvidence.extendOverflow]
      rcases inv.loss with h | ⟨ev, hev, hfst, -⟩
      · have := ok.first_le; omega
      · rw [hold] at hev; cases hev; exact hfst
  · have hstart : state.earliest = state.lastAcknowledgedPosition + 1 := by
      rcases inv.loss with h | ⟨ev, hev, -, hend⟩
      · exact h
      · have := inv.earliest_le; have := inv.next_le
        rcases hno ev hev (inv.evidence ev hev).epoch with h | h <;> omega
    refine ⟨_, heq, ⟨rfl, rfl, ?_, le_rfl, ?_, ?_⟩, ?_, rfl⟩
    · simp only [freshEvidence]; omega
    · simp only [freshEvidence, hearl]; omega
    · simp only [freshEvidence, hearl]; omega
    · simp only [freshEvidence]; omega

/-- Evicting the first record to make room, with the loss recorded in the same step. -/
theorem inv_evict (inv : SpoolInv state) (hv : validateEnqueue input = .ok ())
    (hf : state.findBatch input.batchId = none) (hnext : state.nextPosition < u64Max)
    (hfull : state.records.size = state.capacity) :
    SpoolInv (((state.drop state.earliest).added input).recordLoss state.earliest
      input.createdAt) := by
  have hsp := spans_evicted input inv hfull
  have hearl := hsp.earliest_eq
  obtain ⟨ev, hev, hok, hfst, hlast⟩ := evidence_evicted input inv hfull
  rw [hev]
  set mid := (state.drop state.earliest).added input with hmid
  have hold : ∀ (p : ℕ) r, (state.drop state.earliest).records[p]? = some r →
      state.records[p]? = some r := by
    intro p r hr
    rw [getElem?_drop] at hr
    split_ifs at hr
    exact hr
  have hrecs : RecordsOk (state.drop state.earliest) :=
    inv.recordsOk rfl rfl fun q x hx => ⟨x, hold q x hx, rfl, rfl⟩
  have hadded := hrecs.added hv fun p r hr => findBatch_eq_none.1 hf p r (hold p r hr)
  have hearl' : earliest { mid with dataLoss := some ev } =
      state.earliest + 1 := hearl
  exact
    { hadded, inv with
      size_le := by
        have hsize := size_of_interval hsp.mem
        have := inv.size_eq; have := inv.size_le
        rw [hmid, added_nextPosition, drop_nextPosition,
          ← hmid] at hsize
        show mid.records.size ≤ state.capacity
        omega
      next_le := hnext
      contiguous := hsp.contiguous
      acked_lt := by rw [hearl']; have := inv.acked_lt; exact Nat.lt_succ_of_lt this
      loss := .inr ⟨ev, rfl, hfst, by rw [hearl', hlast]⟩
      evidence := fun ev' hev' => by
        cases hev'
        exact { hok with } }

end Enqueue

section OtherOperations

variable {state : CloudLinkSpoolState}

/-- Rewriting a retained record's delivery bookkeeping. -/
theorem inv_writeRecord (inv : SpoolInv state) {p : ℕ} {r r' : CloudLinkRecord}
    (hr : state.records[p]? = some r) (hid : r'.identity = r.identity)
    (hcnt : r'.content = r.content) : SpoolInv (state.writeRecord p r') := by
  have hget : ∀ q : ℕ, (state.writeRecord p r').records[q]? =
      if p = q then some r' else state.records[q]? := fun q => getElem?_insert_nat _ _ _ _
  have hsp := inv.contiguous.spans.writeRecord (mem_of_getElem? hr) r'
  have hearl := hsp.earliest_eq
  -- Every record of the new state has the identity and the content of one of the old state
  -- at the same position.
  have hback : ∀ (q : ℕ) x, (state.writeRecord p r').records[q]? = some x →
      ∃ y, state.records[q]? = some y ∧ x.identity = y.identity ∧ x.content = y.content := by
    intro q x hx
    rw [hget] at hx
    split_ifs at hx with hq
    · cases hx; subst hq; exact ⟨r, hr, hid, hcnt⟩
    · exact ⟨x, hx, rfl, rfl⟩
  have hrecs : RecordsOk (state.writeRecord p r') := inv.recordsOk rfl rfl hback
  exact
    { hrecs, inv with
      size_le := by
        have h1 : (state.writeRecord p r').records.size =
          state.nextPosition - state.earliest := size_of_interval hsp.mem
        rw [h1, ← inv.size_eq]; exact inv.size_le
      contiguous := hsp.contiguous
      acked_lt := by rw [hearl]; exact inv.acked_lt
      loss := by rw [hearl]; exact inv.loss
      evidence := fun ev hev =>
        { inv.evidence ev hev with
          below := by rw [hearl]; exact (inv.evidence ev hev).below } }

theorem inv_applyAck (inv : SpoolInv state) {ack : CloudLinkDurableAck}
    (hcheck : state.checkAck ack = .ok ()) : SpoolInv (state.applyAck ack) := by
  obtain ⟨hstr, hep, -, r, hr, -⟩ := checkAck_ok hcheck
  have hpos := (inv.contiguous _).1 (mem_of_getElem? hr)
  have hsp := inv.contiguous.spans.applyAck (mem_of_getElem? hr)
  have hearl := hsp.earliest_eq
  have hold : ∀ (p : ℕ) r, (state.applyAck ack).records[p]? = some r →
      state.records[p]? = some r := by
    intro p r hr
    rw [getElem?_applyAck] at hr
    split_ifs at hr
    exact hr
  have hrecs : RecordsOk (state.applyAck ack) :=
    inv.recordsOk rfl rfl fun q x hx => ⟨x, hold q x hx, rfl, rfl⟩
  exact
    { hrecs, inv with
      size_le := by
        have h1 : (state.applyAck ack).records.size =
          state.nextPosition - (ack.acknowledgedPosition + 1) := size_of_interval hsp.mem
        have h2 := inv.size_eq; have h3 := inv.size_le
        rw [h1]
        show _ ≤ state.capacity
        omega
      contiguous := hsp.contiguous
      acked_lt := by rw [hearl]; exact Nat.lt_succ_self _
      loss := .inl hearl
      evidence := fun ev hev =>
        { inv.evidence ev hev with
          below := by rw [hearl]; have := (inv.evidence ev hev).below; omega }
      ack := ⟨hstr, hep, rfl⟩ }

/-- A new epoch starts with nothing retained, acknowledged or lost. -/
theorem inv_rotate (inv : SpoolInv state) (hemp : state.records = ∅)
    (hlt : state.streamEpoch < u64Max) :
    SpoolInv (state.beginEpoch (state.streamEpoch + 1)) := by
  have hsp : (state.beginEpoch (state.streamEpoch + 1)).Spans 1 := spans_of_empty hemp
  have hearl := hsp.earliest_eq
  have hrecs : RecordsOk (state.beginEpoch (state.streamEpoch + 1)) :=
    recordsOk_of_empty hemp
  exact
    { hrecs, inv with
      epoch_pos := Nat.succ_pos _
      epoch_le := hlt
      next_le := (by decide : 1 ≤ u64Max)
      contiguous := hsp.contiguous
      acked_lt := by rw [hearl]; exact Nat.one_pos
      loss := .inl hearl
      evidence := fun ev hev => by cases hev
      ack := rfl }

theorem inv_capacity (inv : SpoolInv state) {capacity : ℕ} (hpos : 0 < capacity)
    (hle : capacity ≤ maxSpoolRecords) (hsize : state.records.size ≤ capacity) :
    SpoolInv { state with capacity := capacity } :=
  { inv with
    capacity_pos := hpos
    capacity_le := hle
    size_le := hsize
    evidence := fun ev hev => { inv.evidence ev hev with } }

end OtherOperations

/-! ## Runs -/

/-- The operation that breaks the invariant: an `enqueue` that evicts and then finds no
    position left. -/
def SpoolOp.Exhausts (state : CloudLinkSpoolState) : SpoolOp → Prop
  | .enqueue input => state.Exhausts input
  | _ => False

instance (state : CloudLinkSpoolState) : (op : SpoolOp) → Decidable (op.Exhausts state)
  | .enqueue input => inferInstanceAs (Decidable (state.Exhausts input))
  | .markOffered _ _ | .markTransportPublished _ _ | .acknowledge _ | .rotateStreamEpoch
  | .validateOpen _ _ => inferInstanceAs (Decidable False)

/-- The operation returns no error. -/
def SpoolOp.succeeds (state : CloudLinkSpoolState) : SpoolOp → Bool
  | .enqueue input => (state.enqueue input).1.isOk
  | .markOffered identity session => (state.markOffered identity session).1.isOk
  | .markTransportPublished identity session =>
    (state.markTransportPublished identity session).1.isOk
  | .acknowledge ack => (state.acknowledge ack).1.isOk
  | .rotateStreamEpoch => state.rotateStreamEpoch.1.isOk
  | .validateOpen streamId capacity => (state.validateOpen streamId capacity).1.isOk

/-- Everything an operation can leave behind. -/
inductive Stepped (state : CloudLinkSpoolState) : SpoolOp → CloudLinkSpoolState → Prop where
  | same {op : SpoolOp} : Stepped state op state
  | dropped {input : CloudLinkEnqueue} {p : ℕ} (hex : state.Exhausts input)
      (hk : firstKey state.records = some p) : Stepped state (.enqueue input) (state.drop p)
  | added {input : CloudLinkEnqueue} (hok : (SpoolOp.enqueue input).succeeds state = true)
      (hv : validateEnqueue input = .ok ()) (hf : state.findBatch input.batchId = none)
      (hnext : state.nextPosition < u64Max) (hroom : state.records.size ≠ state.capacity) :
      Stepped state (.enqueue input) (state.added input)
  | evicted {input : CloudLinkEnqueue} {p : ℕ}
      (hok : (SpoolOp.enqueue input).succeeds state = true)
      (hv : validateEnqueue input = .ok ()) (hf : state.findBatch input.batchId = none)
      (hnext : state.nextPosition < u64Max) (hfull : state.records.size = state.capacity)
      (hk : firstKey state.records = some p) :
      Stepped state (.enqueue input) (((state.drop p).added input).recordLoss p input.createdAt)
  | marked {op : SpoolOp} {p : ℕ} {r r' : CloudLinkRecord} (hok : op.succeeds state = true)
      (hr : state.records[p]? = some r) (hid : r'.identity = r.identity)
      (hcontent : r'.content = r.content) : Stepped state op (state.writeRecord p r')
  | acknowledged {ack : CloudLinkDurableAck}
      (hok : (SpoolOp.acknowledge ack).succeeds state = true)
      (hcheck : state.checkAck ack = .ok ()) :
      Stepped state (.acknowledge ack) (state.applyAck ack)
  | rotated (hok : SpoolOp.rotateStreamEpoch.succeeds state = true) (hempty : state.records = ∅)
      (hlt : state.streamEpoch < u64Max) :
      Stepped state .rotateStreamEpoch (state.beginEpoch (state.streamEpoch + 1))
  | resized {op : SpoolOp} {capacity : ℕ} (hok : op.succeeds state = true) (hpos : 0 < capacity)
      (hle : capacity ≤ maxSpoolRecords) (hsize : state.records.size ≤ capacity) :
      Stepped state op { state with capacity := capacity }

theorem step_cases (state : CloudLinkSpoolState) (op : SpoolOp) :
    Stepped state op (step state op) := by
  have hok {α : Type} {result : Except CloudLinkSpoolError α × CloudLinkSpoolState} {value next}
      (h : result = (.ok value, next)) : result.1.isOk = true := by
    rw [h]
    rfl
  cases op with
  | enqueue input =>
    rcases state.enqueue_cases input with ⟨e, h⟩ | ⟨r, -, -, -, -, h⟩ | ⟨hex, p, e, hk, h⟩ |
      ⟨hv, hf, hnext, hroom, h⟩ | ⟨hv, hf, hnext, hfull, p, hk, h⟩
    all_goals rw [step, h]
    · exact .same
    · exact .same
    · exact .dropped hex hk
    · exact .added (hok h) hv hf hnext hroom
    · exact .evicted (hok h) hv hf hnext hfull hk
  | markOffered identity session =>
    rcases state.markOffered_cases identity session with ⟨e, h⟩ | ⟨r, hr, h⟩
    all_goals rw [step, h]
    · exact .same
    · exact .marked (hok h) (recordMut_ok hr).2.2 rfl rfl
  | markTransportPublished identity session =>
    rcases state.markTransportPublished_cases identity session with ⟨e, h⟩ | ⟨r, hr, h⟩
    all_goals rw [step, h]
    · exact .same
    · exact .marked (hok h) (recordMut_ok hr).2.2 rfl rfl
  | acknowledge ack =>
    rcases state.acknowledge_cases ack with ⟨e, h⟩ | ⟨-, h⟩ | ⟨hcheck, h⟩
    all_goals rw [step, h]
    · exact .same
    · exact .same
    · exact .acknowledged (hok h) hcheck
  | rotateStreamEpoch =>
    rcases state.rotateStreamEpoch_cases with ⟨e, h⟩ | ⟨hemp, hlt, h⟩
    all_goals rw [step, h]
    · exact .same
    · exact .rotated (hok h) hemp hlt
  | validateOpen streamId capacity =>
    rcases state.validateOpen_cases streamId capacity with ⟨e, h⟩ | ⟨-, hpos, hle, hsize, h⟩
    all_goals rw [step, h]
    · exact .same
    · exact .resized (hok h) hpos hle hsize

theorem step_inv {state : CloudLinkSpoolState} (inv : SpoolInv state) (op : SpoolOp)
    (hop : ¬op.Exhausts state) : SpoolInv (step state op) := by
  have h := step_cases state op
  generalize step state op = next at h ⊢
  cases h with
  | same => exact inv
  | dropped hex => exact absurd hex hop
  | added hok hv hf hnext hroom => exact inv_added inv hv hf hnext hroom
  | evicted hok hv hf hnext hfull hk =>
    obtain rfl := Option.some.inj ((inv.firstKey_of_full hfull).2.symm.trans hk)
    exact inv_evict inv hv hf hnext hfull
  | marked hok hr hid hcnt => exact inv_writeRecord inv hr hid hcnt
  | acknowledged hok hcheck => exact inv_applyAck inv hcheck
  | rotated hok hemp hlt => exact inv_rotate inv hemp hlt
  | resized hok hpos hle hsize => exact inv_capacity inv hpos hle hsize

/-- No operation of the run evicts without a position left. -/
def NeverExhausts (state : CloudLinkSpoolState) (ops : List SpoolOp) : Prop :=
  EveryStep step (fun s op => ¬op.Exhausts s) state ops

/-- The state an exhausted `enqueue` leaves has lost its first record without evidence. -/
theorem not_lossCovered_of_exhausts {state : CloudLinkSpoolState} (inv : SpoolInv state)
    {input : CloudLinkEnqueue} (hex : state.Exhausts input) :
    ¬(step state (.enqueue input)).LossCovered := by
  obtain ⟨hlt, hk⟩ := inv.firstKey_of_full hex.2.2.1
  have hstep : step state (.enqueue input) = state.drop state.earliest := by
    rw [step, enqueue_of_exhausts hex hk]
  have hearl := (inv.contiguous.spans.drop hlt).earliest_eq
  rw [hstep]
  intro hcov
  obtain ⟨ev, hev, -, -, hlast⟩ := hcov state.earliest inv.acked_lt (by rw [hearl]; omega)
  have := (inv.evidence ev hev).below
  omega

end AetherEdge.CloudLink
