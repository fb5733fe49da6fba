import AetherEdge.CloudLink.SpoolInvariant

/-!
# Replay never meets a silent gap

`GapFree` collects what the spool owes a replaying reader: the retained positions are the
interval `[earliest, next_position)`, everything between the acknowledged prefix and that
interval is covered by loss evidence, and `replay_from` answers every position after the
acknowledged prefix with consecutive records or with the evidence.

* `gapFree_of_inv`: the invariant gives all of it;
* `gapFree_throughout_iff`: a run is gap free in every state it reaches exactly when no
  `enqueue` of it evicts with the position counter exhausted;
* `fill_exhausted_gap`: such a run exists;
* `replay_resumes_iff`: a reader that is given evidence can go on from the position it names
  exactly when the record there is still retained;
* `failed_unchanged_iff`: an operation that fails changes nothing unless it is such an `enqueue`.
-/

namespace AetherEdge.CloudLink

open OrderedMap Transition CloudLinkSpoolState
open Std (ExtTreeMap)

/-- `window` holds the retained records at `p, p + 1, …`, at most `limit` of them, and is
    empty only at the end of the stream. -/
def ConsecutiveFrom (state : CloudLinkSpoolState) (p limit : ℕ) (window : CloudLinkReplayWindow) :
    Prop :=
  window.dataLoss = none ∧
    window.records.map some =
      (List.range' p (min limit (state.nextPosition - p))).map (fun q => state.records[q]?) ∧
    (window.records = [] ↔ p = state.nextPosition)

/-- `window` holds no record but evidence whose lost range contains `p`. -/
def ReportsLoss (p : ℕ) (window : CloudLinkReplayWindow) : Prop :=
  window.records = [] ∧ ∃ ev, window.dataLoss = some ev ∧
    ev.firstLostPosition ≤ p ∧ p ≤ ev.lastLostPosition

/-- `replay_from` answers every position after the acknowledged prefix. -/
def ReplayComplete (state : CloudLinkSpoolState) : Prop :=
  ∀ p limit, 0 < limit → state.lastAcknowledgedPosition < p → p ≤ state.nextPosition →
    ∃ window, state.replayFrom p limit = .ok window ∧
      (ConsecutiveFrom state p limit window ∨ ReportsLoss p window)

/-- What the spool promises of its positions. -/
structure GapFree (state : CloudLinkSpoolState) : Prop where
  contiguous : state.Contiguous
  acked_lt : state.lastAcknowledgedPosition < state.earliest
  lossCovered : state.LossCovered
  replay : ReplayComplete state

/-! ## From the invariant -/

theorem replay_retained {state : CloudLinkSpoolState} (h : state.Contiguous) {p limit : ℕ}
    (hlimit : 0 < limit) (hpos : p ≠ 0) (hp : state.earliest ≤ p)
    (hnext : p ≤ state.nextPosition) :
    ∃ window, state.replayFrom p limit = .ok window ∧ ConsecutiveFrom state p limit window := by
  refine ⟨⟨((rangeFrom state.records p).take limit).map Prod.snd, none⟩, ?_, rfl, ?_, ?_⟩
  · unfold replayFrom
    rw [if_neg (by omega), if_neg (by omega)]
    simp only [if_neg (not_lt.2 hp)]
  · -- each entry of the range is the retained record at its own key
    have hkeys := rangeFrom_of_interval h hp
    have hself : ∀ e ∈ (rangeFrom state.records p).take limit,
        some e.2 = state.records[e.1]? := by
      intro e he
      have hmem := List.mem_of_mem_filter (List.mem_of_mem_take he)
      exact (ExtTreeMap.mem_toList_iff_getElem?_eq_some.1 hmem).symm
    have htake : ((rangeFrom state.records p).take limit).map Prod.fst =
        List.range' p (min limit (state.nextPosition - p)) := by
      rw [List.map_take, hkeys, List.range'_eq_map_range, ← List.map_take, List.take_range,
        ← List.range'_eq_map_range]
    rw [← htake, List.map_map, List.map_map]
    exact List.map_congr_left hself
  · have hlen : (rangeFrom state.records p).length = state.nextPosition - p := by
      rw [← List.length_map (f := Prod.fst), rangeFrom_of_interval h hp,
        List.length_range']
    rw [List.map_eq_nil_iff, ← List.length_eq_zero_iff, List.length_take, hlen]
    omega

theorem replay_lost {state : CloudLinkSpoolState} (inv : SpoolInv state) {p limit : ℕ}
    (hlimit : 0 < limit) (hp : p < state.earliest) (hack : state.lastAcknowledgedPosition < p) :
    ∃ window, state.replayFrom p limit = .ok window ∧ ReportsLoss p window := by
  obtain ⟨ev, hev, -, hfst, hlast⟩ := inv.lossCovered p hack hp
  refine ⟨⟨[], some ev⟩, ?_, rfl, ev, rfl, hfst, hlast⟩
  have hle := inv.earliest_le
  unfold replayFrom
  rw [if_neg (by omega), if_neg (by omega)]
  simp only [if_pos hp, hev]
  rw [if_pos ⟨hfst, hlast⟩]

theorem gapFree_of_inv {state : CloudLinkSpoolState} (inv : SpoolInv state) : GapFree state where
  contiguous := inv.contiguous
  acked_lt := inv.acked_lt
  lossCovered := inv.lossCovered
  replay := by
    intro p limit hlimit hack hnext
    rcases Nat.lt_or_ge p state.earliest with hp | hp
    · obtain ⟨window, hw, hloss⟩ := replay_lost inv hlimit hp hack
      exact ⟨window, hw, .inr hloss⟩
    · have hpos : p ≠ 0 := by omega
      obtain ⟨window, hw, hcons⟩ := replay_retained inv.contiguous hlimit hpos hp hnext
      exact ⟨window, hw, .inl hcons⟩

/-! ## Runs -/

theorem not_gapFree_of_exhausts {state : CloudLinkSpoolState} (inv : SpoolInv state) {op : SpoolOp}
    (hop : op.Exhausts state) : ¬GapFree (step state op) := by
  cases op with
  | enqueue input => exact fun h => not_lossCovered_of_exhausts inv hop h.lossCovered
  | _ => exact absurd hop id

/-- A stream of valid batches in which neighbours have different identities. -/
def alternating (i : ℕ) : CloudLinkEnqueue where
  messageKind := .telemetryBatch
  batchId := if i % 2 = 0 then "even" else "odd"
  digest := "sha256:0000000000000000000000000000000000000000000000000000000000000000"
  payload := [123, 125]
  createdAt := 1
  expiresAt := none

theorem alternating_valid (i : ℕ) : validateEnqueue (alternating i) = .ok () := by
  unfold alternating
  split_ifs <;> decide

theorem alternating_batchId_ne {n : ℕ} (hn : 0 < n) :
    (alternating (n - 1)).batchId ≠ (alternating n).batchId := by
  simp only [alternating]
  split_ifs with h1 h2 h2
  · omega
  · decide
  · decide
  · omega

/-- **Gap freedom of the spool.** For every run from a new spool, every state it reaches is
    gap free exactly when no `enqueue` of the run evicts from a full spool with the position
    counter exhausted. -/
theorem gapFree_throughout_iff {streamId : String} {capacity : ℕ} {state : CloudLinkSpoolState}
    (hnew : CloudLinkSpoolState.new streamId capacity = .ok state) (ops : List SpoolOp) :
    EveryState step GapFree state ops ↔ NeverExhausts state ops := by
  refine everyState_iff_everyStep ?_ ?_ ?_ (inv_new hnew) ops
  · intro s op inv hop
    exact step_inv inv op hop
  · intro s inv
    exact gapFree_of_inv inv
  · intro s op inv hop
    exact not_gapFree_of_exhausts inv (not_not.1 hop)

theorem new_telemetry : CloudLinkSpoolState.new "telemetry" 1 = .ok (.initial "telemetry" 1) := by
  decide

/-- The theorem at a run that appends, evicts and fails to rotate. -/
theorem gapFree_throughout_eviction :
    CloudLinkSpoolState.new "telemetry" 1 = .ok (.initial "telemetry" 1) ∧
      EveryState step GapFree (.initial "telemetry" 1)
        [.enqueue (alternating 0), .enqueue (alternating 1), .rotateStreamEpoch] :=
  ⟨new_telemetry, (gapFree_throughout_iff new_telemetry _).2 (by
    simp only [NeverExhausts, everyStep_cons, everyStep_nil]
    decide)⟩

/-! ## A run that exhausts the position counter -/

/-- The first `n` batches enqueued into a spool of capacity one. -/
def fill (n : ℕ) : CloudLinkSpoolState :=
  run step (.initial "telemetry" 1) ((List.range n).map fun i => .enqueue (alternating i))

theorem fill_succ (n : ℕ) : fill (n + 1) = step (fill n) (.enqueue (alternating n)) := by
  simp only [fill, List.range_succ, List.map_append, run_append, List.map_cons, List.map_nil,
    run_cons, run_nil]

/-- What is known after `n` batches: only the last one is retained. -/
structure Filled (n : ℕ) (state : CloudLinkSpoolState) : Prop where
  inv : SpoolInv state
  capacity : state.capacity = 1
  next : state.nextPosition = n + 1
  last : 0 < n → ∃ r, state.records[n]? = some r ∧ r.batchId = (alternating (n - 1)).batchId

namespace Filled

variable {n : ℕ} {state : CloudLinkSpoolState}

theorem earliest_eq (h : Filled n state) (hn : 0 < n) : state.earliest = n := by
  obtain ⟨r, hr, -⟩ := h.last hn
  have hmem := (h.inv.contiguous n).1 (mem_of_getElem? hr)
  have hsize := h.inv.size_eq
  have hle := h.inv.size_le
  rw [h.capacity] at hle
  rw [h.next] at hsize
  omega

theorem full (h : Filled n state) (hn : 0 < n) : state.records.size = state.capacity := by
  rw [h.inv.size_eq, h.capacity, h.next, h.earliest_eq hn]
  omega

theorem empty (h : Filled 0 state) : state.records.size = 0 := by
  have hsize := h.inv.size_eq
  have hacked := h.inv.acked_lt
  rw [h.next] at hsize
  omega

variable (h : Filled n state)

include h

/-- Consecutive batches differ, so the next one is not found among the retained ones. -/
theorem findBatch_eq_none : state.findBatch (alternating n).batchId = none := by
  rw [CloudLinkSpoolState.findBatch_eq_none]
  intro p r hr
  have hmem := (h.inv.contiguous p).1 (mem_of_getElem? hr)
  rw [h.next] at hmem
  have hn : 0 < n := by have := h.inv.acked_lt; omega
  rw [h.earliest_eq hn] at hmem
  obtain rfl : p = n := by omega
  obtain ⟨r', hr', hb⟩ := h.last hn
  rw [hr] at hr'
  cases hr'
  rw [hb]
  exact alternating_batchId_ne hn

theorem step (hn : n + 1 < u64Max) : Filled (n + 1) (step state (.enqueue (alternating n))) := by
  have hnext : state.nextPosition < u64Max := by rw [h.next]; exact hn
  have hop : ¬(SpoolOp.enqueue (alternating n)).Exhausts state := by
    rintro ⟨-, -, -, hmax⟩
    omega
  have hinv := step_inv h.inv _ hop
  rcases Nat.eq_zero_or_pos n with rfl | hpos
  · have hroom : state.records.size ≠ state.capacity := by rw [h.empty, h.capacity]; decide
    have heq := enqueue_of_room (alternating_valid 0) h.findBatch_eq_none
      hnext hroom
    rw [CloudLink.step, heq] at hinv ⊢
    refine ⟨hinv, h.capacity, by simp [h.next], fun _ => ⟨state.recordFor (alternating 0), ?_, rfl⟩⟩
    rw [getElem?_added, if_pos h.next]
  · obtain ⟨-, hk⟩ := h.inv.firstKey_of_full (h.full hpos)
    have heq := enqueue_of_full (alternating_valid n) h.findBatch_eq_none
      hnext (h.full hpos) hk
    rw [CloudLink.step, heq] at hinv ⊢
    refine ⟨hinv, ?_, ?_, fun _ => ⟨state.recordFor (alternating n), ?_, rfl⟩⟩
    · simpa using h.capacity
    · simp [h.next]
    · rw [recordLoss_records, getElem?_added,
        drop_nextPosition, if_pos h.next]
      rfl

/-- With no position left the next `enqueue` drops the retained record and fails. -/
theorem enqueue_exhausted (hpos : 0 < n) (hn : n + 1 = u64Max) :
    state.Exhausts (alternating n) ∧ state.enqueue (alternating n) =
      (.error (spoolError .storage "CloudLink stream position exhausted uint64"), state.drop n) := by
  have hex : state.Exhausts (alternating n) :=
    ⟨alternating_valid n, h.findBatch_eq_none, h.full hpos, by rw [h.next, hn]⟩
  obtain ⟨-, hk⟩ := h.inv.firstKey_of_full (h.full hpos)
  have heq := enqueue_of_exhausts hex hk
  rw [h.earliest_eq hpos] at heq
  exact ⟨hex, heq⟩

theorem drop_empty (hpos : 0 < n) : (state.drop n).records = ∅ := by
  rw [ExtTreeMap.eq_empty_iff_forall_not_mem]
  intro p
  rw [mem_drop, h.inv.contiguous, h.earliest_eq hpos, h.next]
  omega

/-- The evidence so far, if any, ends before the position just lost. -/
theorem replayFrom_drop (hpos : 0 < n) :
    ∃ message, (state.drop n).replayFrom n 1 = .error ⟨.positionGap, message⟩ := by
  have hearl : (state.drop n).earliest = n + 1 := by
    rw [earliest, h.drop_empty hpos, firstKey_eq_none.2 rfl, Option.getD_none,
      drop_nextPosition, h.next]
  unfold replayFrom
  rw [drop_nextPosition, h.next, if_neg (by omega), if_neg (by omega)]
  simp only [hearl, drop_dataLoss]
  rw [if_pos (Nat.lt_succ_self n)]
  rcases hd : state.dataLoss with _ | ev
  · exact ⟨_, rfl⟩
  have hbel := (h.inv.evidence ev hd).below
  rw [h.earliest_eq hpos] at hbel
  simp only
  rw [if_neg (by omega)]
  exact ⟨_, rfl⟩

theorem exhausted (hpos : 0 < n) (hn : n + 1 = u64Max) :
    ¬GapFree (CloudLink.step state (.enqueue (alternating n))) ∧ state.records.size = 1 ∧
      (CloudLink.step state (.enqueue (alternating n))).records.size = 0 ∧
      (state.enqueue (alternating n)).1 =
        .error ⟨.storage, "CloudLink stream position exhausted uint64"⟩ ∧
      ∃ message, (CloudLink.step state (.enqueue (alternating n))).replayFrom n 1 =
        .error ⟨.positionGap, message⟩ := by
  obtain ⟨hex, heq⟩ := h.enqueue_exhausted hpos hn
  refine ⟨not_gapFree_of_exhausts h.inv hex,
    by rw [h.full hpos, h.capacity], ?_, by rw [heq]; rfl, ?_⟩
  · rw [CloudLink.step, heq, h.drop_empty hpos]
    rfl
  · rw [CloudLink.step, heq]
    exact h.replayFrom_drop hpos

end Filled

theorem filled_fill (n : ℕ) (hn : n < u64Max) : Filled n (fill n) := by
  induction n with
  | zero =>
    exact ⟨inv_new new_telemetry, rfl, rfl, fun h => absurd h (lt_irrefl 0)⟩
  | succ n ih =>
    rw [fill_succ]
    exact (ih (by omega)).step hn

/-- After `u64::MAX - 1` batches the next `enqueue` fails, and yet the only retained record is
    gone without evidence: a reader at its position is told of a position gap. -/
theorem fill_exhausted_gap :
    ¬GapFree (fill u64Max) ∧
      (fill (u64Max - 1)).records.size = 1 ∧ (fill u64Max).records.size = 0 ∧
      ((fill (u64Max - 1)).enqueue (alternating (u64Max - 1))).1 =
        .error ⟨.storage, "CloudLink stream position exhausted uint64"⟩ ∧
      ∃ message, (fill u64Max).replayFrom (u64Max - 1) 1 = .error ⟨.positionGap, message⟩ := by
  have hsucc : u64Max - 1 + 1 = u64Max := by decide
  have h := (filled_fill (u64Max - 1) (by decide)).exhausted (by decide) hsucc
  rw [← fill_succ, hsucc] at h
  exact h

/-! ## Going on after evidence -/

/-- What holds in every state of every run, also of one that exhausts the counter. -/
structure Resumable (state : CloudLinkSpoolState) : Prop where
  contiguous : state.Contiguous
  evidence : ∀ ev, state.dataLoss = some ev →
    ev.lastLostPosition < ev.earliestRetainedPosition ∧
    ev.earliestRetainedPosition < state.nextPosition

section Resumable

variable {state : CloudLinkSpoolState}

/-- The evidence of an eviction names the position after the one that is lost. -/
theorem resumable_recordLoss {lost : ℕ} (hsp : state.Spans (lost + 1))
    (hlt : lost + 1 < state.nextPosition) (recordedAt : UInt64) :
    Resumable (state.recordLoss lost recordedAt) := by
  have hearl := hsp.earliest_eq
  rcases state.recordLoss_cases lost recordedAt with ⟨old, -, -, -, h⟩ | ⟨-, h⟩
  all_goals
    rw [h]
    refine ⟨hsp.contiguous, fun ev hev => ?_⟩
    obtain rfl := Option.some.inj hev
    simp only [CloudLinkDataLossEvidence.extendOverflow, freshEvidence, hearl]
    omega

theorem Resumable.step (h : Resumable state) (op : SpoolOp) : Resumable (step state op) := by
  have hsp := h.contiguous.spans
  -- what is retained first is what an eviction drops
  have hfst : ∀ {p}, firstKey state.records = some p →
      p = state.earliest ∧ p < state.nextPosition := by
    intro p hk
    exact ⟨by rw [earliest, hk]; rfl, ((h.contiguous p).1 (firstKey_nat.1 hk).1).2⟩
  have hcs := step_cases state op
  generalize CloudLink.step state op = next at hcs ⊢
  cases hcs with
  | same => exact h
  | dropped hex hk =>
    obtain ⟨rfl, hlt⟩ := hfst hk
    exact ⟨(hsp.drop hlt).contiguous, h.evidence⟩
  | @added input =>
    refine ⟨(hsp.added input).contiguous, fun ev hev => ?_⟩
    obtain ⟨hlast, hnext⟩ := h.evidence ev hev
    exact ⟨hlast, Nat.lt_succ_of_lt hnext⟩
  | @evicted input p hok hv hf hnext hfull hk =>
    obtain ⟨rfl, hlt⟩ := hfst hk
    exact resumable_recordLoss ((hsp.drop hlt).added input) (Nat.succ_lt_succ hlt) _
  | marked hok hr =>
    exact ⟨(hsp.writeRecord (mem_of_getElem? hr) _).contiguous, h.evidence⟩
  | acknowledged hok hcheck =>
    obtain ⟨-, -, -, r, hr, -⟩ := checkAck_ok hcheck
    exact ⟨(hsp.applyAck (mem_of_getElem? hr)).contiguous, h.evidence⟩
  | rotated hok hemp =>
    have hbegun : (state.beginEpoch (state.streamEpoch + 1)).Spans 1 := spans_of_empty hemp
    exact ⟨hbegun.contiguous, fun ev hev => by cases hev⟩
  | resized => exact ⟨h.contiguous, h.evidence⟩

/-- Everything `replay_from` can answer: the stored evidence, or records. -/
theorem replayFrom_ok {p limit : ℕ} {window : CloudLinkReplayWindow}
    (h : state.replayFrom p limit = .ok window) :
    (∃ ev, state.dataLoss = some ev ∧ window = ⟨[], some ev⟩) ∨
      state.earliest ≤ p ∧ window.dataLoss = none := by
  unfold replayFrom at h
  split_ifs at h with h1 h2
  by_cases hlt : p < state.earliest
  · simp only [if_pos hlt] at h
    cases hloss : state.dataLoss with
    | none => simp [hloss] at h
    | some ev =>
      simp only [hloss] at h
      split_ifs at h
      exact .inl ⟨ev, rfl, (Except.ok.inj h).symm⟩
  · simp only [if_neg hlt] at h
    exact .inr ⟨not_lt.1 hlt, by rw [← Except.ok.inj h]⟩

end Resumable

/-- In every state that a run from a new spool reaches, a reader that has been given evidence
    can replay from the position the evidence names exactly when that position is still
    retained. -/
theorem replay_resumes_iff {streamId : String} {capacity : ℕ} {state : CloudLinkSpoolState}
    (hnew : CloudLinkSpoolState.new streamId capacity = .ok state) (ops : List SpoolOp) :
    EveryState step
      (fun s => ∀ p limit window ev, s.replayFrom p limit = .ok window →
        window.dataLoss = some ev →
        ((∀ limit', 0 < limit' → ∃ rest,
            s.replayFrom ev.earliestRetainedPosition limit' = .ok rest ∧
            ConsecutiveFrom s ev.earliestRetainedPosition limit' rest) ↔
          ev.earliestRetainedPosition ∈ s.records)) state ops := by
  have hinit : Resumable state := by
    have inv := inv_new hnew
    obtain ⟨-, -, -, rfl⟩ := new_ok.1 hnew
    exact ⟨inv.contiguous, fun ev hev => by cases hev⟩
  have hrun : EveryState step Resumable state ops :=
    everyState_of_step (fun _ op h => h.step op) hinit ops
  refine hrun.imp ?_
  intro s h p limit window ev hreplay hev
  have hstored : s.dataLoss = some ev := by
    rcases replayFrom_ok hreplay with ⟨stored, hstored, rfl⟩ | ⟨-, hnone⟩
    · rw [hstored]; exact hev
    · rw [hnone] at hev; cases hev
  obtain ⟨hlast, hnext⟩ := h.evidence ev hstored
  rw [h.contiguous]
  constructor
  · intro hresume
    obtain ⟨rest, hrest, hnone, -⟩ := hresume 1 Nat.one_pos
    rcases replayFrom_ok hrest with ⟨stored, -, rfl⟩ | ⟨hle, -⟩
    · cases hnone
    · exact ⟨hle, hnext⟩
  · rintro ⟨hle, -⟩ limit' hlimit
    exact replay_retained h.contiguous hlimit (Nat.ne_of_gt (Nat.zero_lt_of_lt hlast)) hle hnext.le

theorem replay_resumes_after_eviction :
    CloudLinkSpoolState.new "telemetry" 1 = .ok (.initial "telemetry" 1) ∧
      EveryState step
        (fun s => ∀ p limit window ev, s.replayFrom p limit = .ok window →
          window.dataLoss = some ev →
          ((∀ limit', 0 < limit' → ∃ rest,
              s.replayFrom ev.earliestRetainedPosition limit' = .ok rest ∧
              ConsecutiveFrom s ev.earliestRetainedPosition limit' rest) ↔
            ev.earliestRetainedPosition ∈ s.records))
        (.initial "telemetry" 1) [.enqueue (alternating 0), .enqueue (alternating 1)] :=
  ⟨new_telemetry, replay_resumes_iff new_telemetry _⟩

/-- A session in which a record can be offered. -/
def evictionSession : CloudLinkSessionBinding := ⟨"session", 1⟩

/-- Position 1 is evicted and position 2 acknowledged: a reader at 1 is sent on to 2, and there
    it is told of a position gap. -/
theorem acknowledged_resume_gap :
    ∃ state ev,
      state = run step (.initial "telemetry" 1)
        [.enqueue (alternating 0), .enqueue (alternating 1),
          .markOffered ⟨"telemetry", 1, 2⟩ evictionSession,
          .acknowledge ⟨evictionSession, "telemetry", 1, 2, (alternating 1).batchId,
            (alternating 1).digest, "receipt"⟩] ∧
      state.replayFrom 1 1 = .ok ⟨[], some ev⟩ ∧ ev.earliestRetainedPosition = 2 ∧
      state.replayFrom 2 1 = .error ⟨.positionGap, "CloudLink replay position 2 precedes " ++
        "retained position 3 without matching loss evidence"⟩ := by
  refine ⟨_, ⟨"telemetry", 1, 1, 1, 2, "capacity-overflow", 1⟩, rfl, ?_, rfl, ?_⟩
  · decide
  · decide

/-! ## Operations that fail -/

/-- An operation that fails leaves the state as it was, unless it is an `enqueue` that has evicted
    a record before it finds the position counter exhausted. -/
theorem failed_unchanged_iff (state : CloudLinkSpoolState) (op : SpoolOp) :
    (op.succeeds state = false → step state op = state) ↔
      ¬(op.Exhausts state ∧ state.records ≠ ∅) := by
  constructor
  · rintro hkeeps ⟨hex, hne⟩
    cases op with
    | enqueue input =>
      obtain ⟨p, hk⟩ := Option.ne_none_iff_exists'.1 (mt firstKey_eq_none.1 hne)
      have heq := enqueue_of_exhausts hex hk
      have hsame : state.drop p = state := by
        have := hkeeps (by rw [SpoolOp.succeeds, heq]; rfl)
        rwa [step, heq] at this
      have hp : p ∈ (state.drop p).records := by
        rw [hsame]
        exact (firstKey_nat.1 hk).1
      exact ((mem_drop state p p).1 hp).1 rfl
    | _ => exact hex
  · intro hnot hfails
    have hcases := step_cases state op
    generalize step state op = next at hcases ⊢
    cases hcases with
    | same => rfl
    | dropped hex hk =>
      refine absurd ⟨hex, fun hempty => ?_⟩ hnot
      rw [firstKey_eq_none.2 hempty] at hk
      cases hk
    | added hok | evicted hok | marked hok | acknowledged hok | rotated hok | resized hok =>
      rw [hfails] at hok
      cases hok

/-- With the counter at its end the `enqueue` that fails has dropped the retained record. -/
theorem exhausted_enqueue_drops :
    (SpoolOp.enqueue (alternating (u64Max - 1))).succeeds (fill (u64Max - 1)) = false ∧
      (fill (u64Max - 1)).records.size = 1 ∧
      (step (fill (u64Max - 1)) (.enqueue (alternating (u64Max - 1)))).records.size = 0 := by
  obtain ⟨-, hbefore, hafter, herror, -⟩ :=
    (filled_fill (u64Max - 1) (by decide)).exhausted (by decide) (by decide)
  exact ⟨by rw [SpoolOp.succeeds, herror]; rfl, hbefore, hafter⟩

end AetherEdge.CloudLink
