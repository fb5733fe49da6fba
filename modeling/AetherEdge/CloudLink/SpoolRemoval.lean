import AetherEdge.CloudLink.SpoolReplay

/-!
# How a retained record can disappear

A record leaves the spool by a cumulative acknowledgement whose terminal record matches the
receipt, or by a capacity eviction whose evidence is written in the same step. The one other
way is an `enqueue` that evicts and then finds the position counter exhausted.

* `kept_of_passive`: offering, publishing, failed and repeated acknowledgements keep every
  record, from any state whatever;
* `removalAuthorised_iff`: at one step of a state that satisfies the invariant;
* `removal_authorised_throughout_iff`: along runs.
-/

namespace AetherEdge.CloudLink

open OrderedMap Transition CloudLinkSpoolState
open Std (ExtTreeMap)

/-! ## Removal -/

/-- The record `r` at position `p` is still there, up to its delivery bookkeeping. -/
def Kept (state : CloudLinkSpoolState) (p : ℕ) (r : CloudLinkRecord) : Prop :=
  ∃ r', state.records[p]? = some r' ∧ r'.identity = r.identity ∧ r'.content = r.content

/-- `op` is an accepted acknowledgement of a position at or after `p` whose terminal record
    matches the receipt's stream, epoch, session offer, batch identity and digest. -/
def RemovedByAck (state : CloudLinkSpoolState) (op : SpoolOp) (p : ℕ) : Prop :=
  ∃ ack removed, op = .acknowledge ack ∧ (state.acknowledge ack).1 = .ok (.applied removed) ∧
    p ≤ ack.acknowledgedPosition ∧
    ∃ terminal, state.records[ack.acknowledgedPosition]? = some terminal ∧
      terminal.identity = ⟨ack.streamId, ack.streamEpoch, ack.acknowledgedPosition⟩ ∧
      terminal.offeredSession = some ack.session ∧ terminal.batchId = ack.batchId ∧
      terminal.digest = ack.digest

/-- `op` is a successful `enqueue` into a full spool, and the evidence it writes covers `p` in
    the record's stream and epoch. -/
def RemovedByEviction (state : CloudLinkSpoolState) (op : SpoolOp) (p : ℕ) (r : CloudLinkRecord) :
    Prop :=
  ∃ input added ev, op = .enqueue input ∧ (state.enqueue input).1 = .ok added ∧
    state.records.size = state.capacity ∧
    (step state op).dataLoss = some ev ∧ state.dataLoss ≠ some ev ∧
    ev.streamId = r.identity.streamId ∧ ev.streamEpoch = r.identity.streamEpoch ∧
    ev.firstLostPosition ≤ p ∧ p ≤ ev.lastLostPosition

/-- Every record `op` removes, it removes in one of the two ways. -/
def RemovalAuthorised (state : CloudLinkSpoolState) (op : SpoolOp) : Prop :=
  ∀ (p : ℕ) r, state.records[p]? = some r → ¬Kept (step state op) p r →
    RemovedByAck state op p ∨ RemovedByEviction state op p r

/-- Offers, transport publications and acknowledgements that are not applied. -/
def SpoolOp.Passive (state : CloudLinkSpoolState) : SpoolOp → Prop
  | .markOffered _ _ | .markTransportPublished _ _ => True
  | .acknowledge ack => ∀ removed, (state.acknowledge ack).1 ≠ .ok (.applied removed)
  | _ => False

/-! ## One step -/

variable {state : CloudLinkSpoolState}

theorem Kept.of_eq {state' : CloudLinkSpoolState} {p : ℕ} {r : CloudLinkRecord}
    (hr : state.records[p]? = some r) (h : state'.records[p]? = state.records[p]?) :
    Kept state' p r :=
  ⟨r, h.trans hr, rfl, rfl⟩

theorem kept_writeRecord {p q : ℕ} {r x x' : CloudLinkRecord} (hr : state.records[p]? = some r)
    (hx : state.records[q]? = some x) (hid : x'.identity = x.identity)
    (hcnt : x'.content = x.content) : Kept (state.writeRecord q x') p r := by
  have hget : (state.writeRecord q x').records[p]? =
      if q = p then some x' else state.records[p]? := getElem?_insert_nat _ _ _ _
  by_cases hq : q = p
  · subst hq
    rw [hr] at hx
    cases hx
    exact ⟨x', by rw [hget, if_pos rfl], hid, hcnt⟩
  · exact .of_eq hr (by rw [hget, if_neg hq])

/-- Nothing disappears in an offer, a publication or an acknowledgement that is not applied,
    whatever state it is made in. -/
theorem kept_of_passive {op : SpoolOp} (hop : op.Passive state) {p : ℕ} {r : CloudLinkRecord}
    (hr : state.records[p]? = some r) : Kept (step state op) p r := by
  cases op with
  | markOffered identity session =>
    rcases state.markOffered_cases identity session with ⟨e, h⟩ | ⟨x, hx, h⟩
    · rw [step, h]; exact .of_eq hr rfl
    · rw [step, h]
      exact kept_writeRecord hr (recordMut_ok hx).2.2 rfl rfl
  | markTransportPublished identity session =>
    rcases state.markTransportPublished_cases identity session with ⟨e, h⟩ | ⟨x, hx, h⟩
    · rw [step, h]; exact .of_eq hr rfl
    · rw [step, h]
      exact kept_writeRecord hr (recordMut_ok hx).2.2 rfl rfl
  | acknowledge ack =>
    rcases state.acknowledge_cases ack with ⟨e, h⟩ | ⟨-, h⟩ | ⟨-, h⟩
    · rw [step, h]; exact .of_eq hr rfl
    · rw [step, h]; exact .of_eq hr rfl
    · exact absurd (by rw [h]) (hop _)
  | _ => exact absurd hop id

/-- An applied acknowledgement removes only positions up to its own, on the strength of a
    matching terminal record. -/
theorem removalAuthorised_acknowledge (inv : SpoolInv state) (ack : CloudLinkDurableAck) :
    RemovalAuthorised state (.acknowledge ack) := by
  intro p r hr hgone
  rcases state.acknowledge_cases ack with ⟨e, h⟩ | ⟨-, h⟩ | ⟨hcheck, h⟩
  · exact absurd (.of_eq hr (by rw [step, h])) hgone
  · exact absurd (.of_eq hr (by rw [step, h])) hgone
  · obtain ⟨hstr, hep, -, t, ht, hsession, hbt, hdig⟩ :=
      checkAck_ok hcheck
    have hp : p ≤ ack.acknowledgedPosition := by
      by_contra hlt
      exact hgone (.of_eq hr (by rw [step, h, getElem?_applyAck, if_neg hlt]))
    refine .inl ⟨ack, _, rfl, by rw [h], hp, t, ht, ?_, hsession, hbt, hdig⟩
    rw [inv.identity _ t ht, hstr, hep]

/-- An eviction is covered by the evidence the same `enqueue` writes. -/
theorem removalAuthorised_enqueue (inv : SpoolInv state) {input : CloudLinkEnqueue}
    (hop : ¬state.Exhausts input) : RemovalAuthorised state (.enqueue input) := by
  intro p r hr hgone
  rcases state.enqueue_cases input with ⟨e, h⟩ | ⟨_, -, -, -, -, h⟩ | ⟨hex, -⟩ |
    ⟨-, -, -, -, h⟩ | ⟨hv, hf, hnext, hfull, q, hk, h⟩
  · exact absurd (.of_eq hr (by rw [step, h])) hgone
  · exact absurd (.of_eq hr (by rw [step, h])) hgone
  · exact absurd hex hop
  · have hne : state.nextPosition ≠ p := by
      rintro rfl
      exact inv.not_mem_next (mem_of_getElem? hr)
    exact absurd (.of_eq hr (by rw [step, h, getElem?_added, if_neg hne])) hgone
  · obtain ⟨hlt, hk'⟩ := inv.firstKey_of_full hfull
    rw [hk'] at hk
    cases hk
    -- only the first retained position is dropped
    have hp : p = state.earliest := by
      by_contra hne
      have hnext' : state.nextPosition ≠ p := by
        rintro rfl
        exact inv.not_mem_next (mem_of_getElem? hr)
      refine hgone (.of_eq hr ?_)
      rw [step, h, recordLoss_records, getElem?_added,
        drop_nextPosition, if_neg hnext', getElem?_drop, if_neg (Ne.symm hne)]
    obtain ⟨ev, hev, hok, hfst, hlast⟩ := evidence_evicted input inv hfull
    have hid := inv.identity p r hr
    refine .inr ⟨input, _, ev, rfl, by rw [h], hfull, by rw [step, h, hev], fun hold => ?_, ?_, ?_,
      ?_, ?_⟩
    · have := (inv.evidence ev hold).below; omega
    · rw [hid]; exact hok.stream
    · rw [hid]; exact hok.epoch
    · have := inv.acked_lt; omega
    · omega

/-- The exhausted `enqueue` removes a record in neither way. -/
theorem not_removalAuthorised_of_exhausts (inv : SpoolInv state) {input : CloudLinkEnqueue}
    (hex : state.Exhausts input) : ¬RemovalAuthorised state (.enqueue input) := by
  obtain ⟨hlt, hk⟩ := inv.firstKey_of_full hex.2.2.1
  have h := enqueue_of_exhausts hex hk
  obtain ⟨r, hr⟩ := mem_iff_getElem?.1 ((inv.contiguous state.earliest).2 ⟨le_rfl, hlt⟩)
  have hgone : ¬Kept (step state (.enqueue input)) state.earliest r := by
    rintro ⟨r', hr', -⟩
    rw [step, h, getElem?_drop, if_pos rfl] at hr'
    cases hr'
  intro hauth
  rcases hauth state.earliest r hr hgone with ⟨ack, _, hop, -⟩ | ⟨input', _, _, hop, hok, -⟩
  · cases hop
  · cases hop
    rw [h] at hok
    cases hok

theorem removalAuthorised_iff (inv : SpoolInv state) (op : SpoolOp) :
    RemovalAuthorised state op ↔ ¬op.Exhausts state := by
  cases op with
  | enqueue input =>
    exact ⟨fun h hex => not_removalAuthorised_of_exhausts inv hex h,
      fun hop => removalAuthorised_enqueue inv hop⟩
  | acknowledge ack => exact ⟨fun _ => id, fun _ => removalAuthorised_acknowledge inv ack⟩
  | markOffered identity session =>
    have hpassive : (SpoolOp.markOffered identity session).Passive state := trivial
    exact ⟨fun _ => id, fun _ p r hr hgone => absurd (kept_of_passive hpassive hr) hgone⟩
  | markTransportPublished identity session =>
    have hpassive : (SpoolOp.markTransportPublished identity session).Passive state := trivial
    exact ⟨fun _ => id, fun _ p r hr hgone => absurd (kept_of_passive hpassive hr) hgone⟩
  | rotateStreamEpoch =>
    refine ⟨fun _ => id, fun _ p r hr hgone => absurd (.of_eq hr ?_) hgone⟩
    rcases state.rotateStreamEpoch_cases with ⟨e, h⟩ | ⟨-, -, h⟩ <;> rw [step, h]
    rfl
  | validateOpen streamId capacity =>
    refine ⟨fun _ => id, fun _ p r hr hgone => absurd (.of_eq hr ?_) hgone⟩
    rcases state.validateOpen_cases streamId capacity with ⟨e, h⟩ | ⟨-, -, -, -, h⟩ <;> rw [step, h]

/-! ## Runs -/

/-- **Only acknowledged or reported records disappear.** In a run from a new spool every
    removal is authorised exactly when no `enqueue` evicts with the position counter exhausted;
    and offers, publications and acknowledgements that are not applied keep every record at
    every point of every run. -/
theorem removal_authorised_throughout_iff {streamId : String} {capacity : ℕ}
    {state : CloudLinkSpoolState} (hnew : CloudLinkSpoolState.new streamId capacity = .ok state)
    (ops : List SpoolOp) :
    (EveryStep step RemovalAuthorised state ops ↔ NeverExhausts state ops) ∧
      EveryStep step (fun s op => op.Passive s → ∀ (p : ℕ) r, s.records[p]? = some r →
        Kept (step s op) p r) state ops := by
  constructor
  · refine everyStep_iff_everyStep ?_ ?_ (inv_new hnew) ops
    · intro s op inv hop
      exact step_inv inv op hop
    · intro s op inv
      exact removalAuthorised_iff inv op
  · intro n op _ hop p r hr
    exact kept_of_passive hop hr

/-- The theorem at a run in which the second batch evicts the first. -/
theorem removal_authorised_eviction :
    CloudLinkSpoolState.new "telemetry" 1 = .ok (.initial "telemetry" 1) ∧
      EveryStep step RemovalAuthorised (.initial "telemetry" 1)
        [.enqueue (alternating 0), .enqueue (alternating 1), .rotateStreamEpoch] :=
  ⟨new_telemetry, (removal_authorised_throughout_iff new_telemetry _).1.2 (by
    simp only [NeverExhausts, everyStep_cons, everyStep_nil]
    decide)⟩

/-- After `u64::MAX - 1` batches the next `enqueue` fails and removes a record without
    evidence. -/
theorem fill_exhausted_removes :
    ¬RemovalAuthorised (fill (u64Max - 1)) (.enqueue (alternating (u64Max - 1))) := by
  have h := filled_fill (u64Max - 1) (by decide)
  exact not_removalAuthorised_of_exhausts h.inv (h.enqueue_exhausted (by decide) (by decide)).1

end AetherEdge.CloudLink
